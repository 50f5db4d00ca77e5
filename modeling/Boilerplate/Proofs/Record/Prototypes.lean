import Boilerplate.Proofs.Frame
import Boilerplate.Proofs.Record.Code
import Boilerplate.Proofs.Text.Lines

/-!
# The prototypes and the definitions of a record

The header of a record declares its accessors, and the source file defines them. The two files are
written independently of each other. They are read back here line by line: a prototype is a line
that ends in `);`, and a definition starts with a line that ends in an opening brace behind a
parenthesis. No other line ends like that, whatever the guard is.

Both files have the same heads of functions in the same order, two for each field. Behind the head
of a definition comes the statement for its field, and in front of a head comes the note about
ownership if the field is a pointer.

## Main definitions

* `Record.getterHead`, `Record.setterHead` — the heads of the two functions of a field
* `Record.heads` — the heads of all functions of a record
* `Field.noteOr` — the line in front of a head

## Main results

* `Record.Checked.lines_header`, `Record.Checked.lines_source` — the files, read line by line
* `Record.Checked.placesOf_header`, `Record.Checked.placesOf_source` — prototypes and definitions in
  their places
* `Record.Checked.header_source_agree` — what the two files agree on
-/

namespace Boilerplate

/-! ### Functions of fields -/

namespace Record

/-- The head of the function that returns a field. -/
def getterHead (record : String) (field : Field) : String :=
  field.type.spelling ++ " " ++ record ++ "_get_" ++ field.name ++ "(" ++ record ++ "* obj)"

/-- The head of the function that replaces a field. -/
def setterHead (record : String) (field : Field) : String :=
  "void " ++ record ++ "_set_" ++ field.name ++ "(" ++ record ++ "* obj, " ++
    field.type.spelling ++ " value)"

/-- The heads of the functions of a record: two for each field, in declared order. -/
def heads (record : Record) : List String :=
  record.fields.flatMap fun field => [getterHead record.name field, setterHead record.name field]

end Record

/-- The line in front of a function: the note about ownership if the field is a pointer, and
otherwise another line. -/
def Field.noteOr (field : Field) (kind : Accessor.Kind) (other : String) : String :=
  if field.type.isPointer then "/* " ++ kind.note ++ " */" else other

/-- In front of the functions of a pointer always stands their note. -/
theorem Field.noteOr_of_pointer {field : Field} (h : field.type.isPointer = true)
    (kind : Accessor.Kind) (other : String) :
    field.noteOr kind other = "/* " ++ kind.note ++ " */" := if_pos h

theorem Field.noteOr_of_not_pointer {field : Field} (h : ¬ field.type.isPointer = true)
    (kind : Accessor.Kind) (other : String) : field.noteOr kind other = other := if_neg h

namespace Record.Checked

open Text (WrittenWith lines endsIn places placesOf)

variable {unit : Checked} {style : Style} {a : Accessor} {field : Field} {line ending : String}

/-! ### The signs at the ends of lines -/

/-- Only lines with a closing parenthesis are taken for prototypes or definitions. -/
theorem endsIn_eq_false_of_writtenWith {signs : String} (h : WrittenWith signs line)
    (hsigns : ')' ∉ signs.toList) (hending : ')' ∈ ending.toList) : endsIn ending line = false :=
  Text.endsIn_eq_false_of_not_mem hending (h.not_mem rfl hsigns)

/-- The signs of a banner. The name of a record needs no escape. -/
theorem writtenWith_of_mem_banner (h : line ∈ unit.banner style) : WrittenWith " /*:." line := by
  have hsubject : Text.commentText ("record " ++ unit.record.name) =
      "record " ++ unit.record.name := by
    have hslash : '/' ∉ ("record " ++ unit.record.name).toList := by
      simp [Identifier.not_mem_of_not_isPart unit.name_faultless (c := '/') rfl]
    rw [Text.commentText, Text.escapeEnds_of_slash_not_mem hslash, String.ofList_toList]
  have hdigest : WrittenWith " /*:." unit.record.digest.short :=
    fun _ hc => .inl (Digest.isPart_of_mem_short hc)
  by_cases hbanner : style.banner = true
  · simp only [banner, Frame.banner, hbanner, if_true, hsubject, List.mem_cons, List.not_mem_nil,
      or_false] at h
    rcases h with rfl | rfl | rfl | rfl
    · simp +decide only [Text.writtenWith_append, unit.writtenWith_name, and_self]
    · simp +decide only [Text.writtenWith_append, hdigest, and_self]
    · decide
    · decide
  · simp [banner, Frame.banner, hbanner] at h

theorem writtenWith_note (kind : Accessor.Kind) :
    WrittenWith " /*,.;'-" ("/* " ++ kind.note ++ " */") := by
  cases kind <;> decide +kernel

theorem writtenWith_of_mem_noteLines (h : line ∈ noteLines a) : WrittenWith " /*,.;'-" line := by
  by_cases hpointer : a.type.isPointer = true
  · have hline : line = "/* " ++ a.kind.note ++ " */" := by
      simpa [noteLines, Accessor.note?, hpointer] using h
    rw [hline]
    exact writtenWith_note a.kind
  · simp [noteLines, Accessor.note?, hpointer] at h

/-- The signs of the lines that declare an accessor. -/
theorem writtenWith_of_mem_declarationLines (ha : a ∈ unit.accessors)
    (h : line ∈ declarationLines a) : WrittenWith " /*(),.;'-" line := by
  simp only [declarationLines, List.mem_append, List.mem_singleton] at h
  rcases h with (h | h) | rfl
  · have hempty : line = "" := by
      split at h <;> simp_all
    rw [hempty]
    decide
  · exact (writtenWith_of_mem_noteLines h).mono (by decide)
  · exact Text.writtenWith_append.mpr ⟨(writtenWith_prototype ha).mono (by decide), by decide⟩

theorem getLast?_includeGuard (unit : Checked) (style : Style) :
    (Frame.includeGuard unit.headerName style).toList.getLast? = some 'H' := by
  rw [Frame.includeGuard, headerName, Identifier.macroCase_append]
  simp [Identifier.macroChar]

/-- Whatever a guard starts with, its lines do not end like prototypes. -/
theorem endsIn_guardLine (unit : Checked) (style : Style)
    (h : line ∈ ["#ifndef " ++ Frame.includeGuard unit.headerName style,
      "#define " ++ Frame.includeGuard unit.headerName style, "",
      "#endif /* " ++ Frame.includeGuard unit.headerName style ++ " */"]) :
    endsIn ");" line = false := by
  apply Text.endsIn_eq_false_of_getLast? (by simp)
  simp only [List.mem_cons, List.not_mem_nil, or_false] at h
  rcases h with rfl | rfl | rfl | rfl <;>
    simp [List.getLast?_cons, List.getLast?_append, getLast?_includeGuard]

theorem writtenWith_bodyLine (style : Style) (ha : a ∈ unit.accessors) :
    WrittenWith " ->=;" (style.indentation ++ a.statement) :=
  Text.writtenWith_append.mpr
    ⟨style.writtenWith_indentation.mono (by decide), writtenWith_statement ha⟩

/-! ### Groups of lines -/

/-- The lines that declare the two functions of a field. -/
theorem declarationLines_ofField (record : String) (field : Field) :
    (Accessor.ofField record field).flatMap declarationLines =
      (if field.type.isPointer then ["", field.noteOr .getter ""] else [""]) ++
        [getterHead record field ++ ";"] ++
        (if field.type.isPointer then [field.noteOr .setter ""] else []) ++
        [setterHead record field ++ ";"] := by
  by_cases hpointer : field.type.isPointer = true <;>
    simp [Accessor.ofField, declarationLines, noteLines, Accessor.note?, hpointer, Field.noteOr,
      Accessor.prototype_getter, Accessor.prototype_setter, getterHead, setterHead,
      FieldType.spelling]

theorem definitionLines_ofField (record : String) (field : Field) :
    (Accessor.ofField record field).flatMap (definitionLines style) =
      (if field.type.isPointer then ["", field.noteOr .getter ""] else [""]) ++
        [getterHead record field ++ " \x7b",
          style.indentation ++ ("return obj->" ++ field.name ++ ";"), "\x7d"] ++
      (if field.type.isPointer then ["", field.noteOr .setter ""] else [""]) ++
        [setterHead record field ++ " \x7b",
          style.indentation ++ ("obj->" ++ field.name ++ " = value;"), "\x7d"] := by
  by_cases hpointer : field.type.isPointer = true <;>
    simp [Accessor.ofField, definitionLines, noteLines, Accessor.note?, hpointer, Field.noteOr,
      Accessor.prototype_getter, Accessor.prototype_setter, getterHead, setterHead,
      FieldType.spelling, Accessor.statement_getter, Accessor.statement_setter]

/-- Every head closes a parenthesis, and then a mark follows. -/
theorem endsIn_head (record : String) (field : Field) {head : String} (mark : String)
    (h : head ∈ [getterHead record field, setterHead record field]) :
    endsIn (")" ++ mark) (head ++ mark) = true := by
  have hclose : ∃ front, head = front ++ ")" := by
    rcases List.mem_pair.mp h with rfl | rfl
    · exact ⟨field.type.spelling ++ " " ++ record ++ "_get_" ++ field.name ++ "(" ++ record ++
        "* obj", by simp [getterHead, ← String.toList_inj]⟩
    · exact ⟨"void " ++ record ++ "_set_" ++ field.name ++ "(" ++ record ++ "* obj, " ++
        field.type.spelling ++ " value", by simp [setterHead, ← String.toList_inj]⟩
  obtain ⟨front, rfl⟩ := hclose
  -- The parenthesis is counted to the mark instead of the head.
  rw [String.append_assoc]
  exact Text.endsIn_append front _

theorem endsIn_noteOr (field : Field) (kind : Accessor.Kind) (hending : ')' ∈ ending.toList) :
    endsIn ending (field.noteOr kind "") = false := by
  by_cases hpointer : field.type.isPointer = true
  · rw [Field.noteOr_of_pointer hpointer]
    exact endsIn_eq_false_of_writtenWith (writtenWith_note kind) (by decide) hending
  · rw [Field.noteOr_of_not_pointer hpointer]
    exact Text.endsIn_eq_false_of_not_mem hending List.not_mem_nil

/-- In the lines that declare the functions of a field, the two prototypes are found, and what
stands in front of them. -/
theorem places_declarationLines (record : String) (field : Field) (before after : String) :
    ((places before ((Accessor.ofField record field).flatMap declarationLines) after).filter
        fun place => endsIn ");" place.line).map (fun place => (place.before, place.line)) =
      [(field.noteOr .getter "", getterHead record field ++ ";"),
        (field.noteOr .setter (getterHead record field ++ ";"),
          setterHead record field ++ ";")] := by
  have hgetter : endsIn ");" (getterHead record field ++ ";") = true :=
    endsIn_head record field ";" (by simp)
  have hsetter : endsIn ");" (setterHead record field ++ ";") = true :=
    endsIn_head record field ";" (by simp)
  have hempty : endsIn ");" "" = false := by decide
  have hnote (kind : Accessor.Kind) : endsIn ");" (field.noteOr kind "") = false :=
    endsIn_noteOr field kind (by decide)
  rw [declarationLines_ofField]
  by_cases hpointer : field.type.isPointer = true
  · -- The note of the setter parts it from the getter.
    simp only [Field.noteOr_of_pointer hpointer] at hnote ⊢
    simp [places, hpointer, hgetter, hsetter, hempty, hnote]
  · -- Nothing stands between the two.
    simp only [Field.noteOr_of_not_pointer hpointer]
    simp [places, hpointer, hgetter, hsetter, hempty]

/-- In the lines that define the functions of a field, the two heads are found, with the lines in
front of them and behind them. -/
theorem places_definitionLines (hfield : field ∈ unit.record.fields) (before after : String) :
    ((places before ((Accessor.ofField unit.record.name field).flatMap (definitionLines style))
        after).filter fun place => endsIn ") \x7b" place.line).map id =
      [⟨field.noteOr .getter "", getterHead unit.record.name field ++ " \x7b",
          style.indentation ++ ("return obj->" ++ field.name ++ ";")⟩,
        ⟨field.noteOr .setter "", setterHead unit.record.name field ++ " \x7b",
          style.indentation ++ ("obj->" ++ field.name ++ " = value;")⟩] := by
  have hgetter : endsIn ") \x7b" (getterHead unit.record.name field ++ " \x7b") = true :=
    endsIn_head unit.record.name field " \x7b" (by simp)
  have hsetter : endsIn ") \x7b" (setterHead unit.record.name field ++ " \x7b") = true :=
    endsIn_head unit.record.name field " \x7b" (by simp)
  have hempty : endsIn ") \x7b" "" = false := by decide
  have hnote (kind : Accessor.Kind) : endsIn ") \x7b" (field.noteOr kind "") = false :=
    endsIn_noteOr field kind (by decide)
  have hbody (kind : Accessor.Kind) : endsIn ") \x7b" (style.indentation ++
      Accessor.statement ⟨kind, unit.record.name, field.name, field.type.cType⟩) = false :=
    endsIn_eq_false_of_writtenWith
      (writtenWith_bodyLine style (mem_accessors_iff.mpr ⟨field, hfield, kind, rfl⟩))
      (by decide) (by decide)
  have hreturn := hbody .getter
  have hstore := hbody .setter
  rw [Accessor.statement_getter] at hreturn
  rw [Accessor.statement_setter] at hstore
  have hbrace : endsIn ") \x7b" "\x7d" = false := by decide
  rw [definitionLines_ofField]
  by_cases hpointer : field.type.isPointer = true
  · simp [places, hpointer, hgetter, hsetter, hempty, hnote, hreturn, hstore, hbrace]
  · simp only [Field.noteOr_of_not_pointer hpointer]
    simp [places, hpointer, hgetter, hsetter, hempty, hreturn, hstore, hbrace]

/-! ### The files, line by line -/

theorem lineFeed_not_mem_definitionLines (ha : a ∈ unit.accessors)
    (h : line ∈ definitionLines style a) : '\n' ∉ line.toList := by
  have hprototype : '\n' ∉ a.prototype.toList := (writtenWith_prototype ha).not_mem rfl (by decide)
  simp only [definitionLines, List.mem_append, List.mem_cons, List.not_mem_nil, or_false] at h
  rcases h with (rfl | h) | rfl | rfl | rfl
  · simp
  · exact (writtenWith_of_mem_noteLines h).not_mem rfl (by decide)
  · simp [hprototype]
  · exact (writtenWith_bodyLine style ha).not_mem rfl (by decide)
  · simp

theorem lineFeed_not_mem_headerLines (hstart : '\n' ∉ style.guardPrefix.toList)
    (h : line ∈ unit.headerLines style) : '\n' ∉ line.toList := by
  have hguard : '\n' ∉ (Frame.includeGuard unit.headerName style).toList := by
    intro hmem
    rw [Frame.includeGuard, String.toList_append, List.mem_append] at hmem
    rcases hmem with hmem | hmem
    · exact hstart hmem
    · exact absurd (Identifier.isPart_of_mem_macroCase hmem) (by decide)
  simp only [headerLines, Frame.guarded, List.mem_append, List.mem_cons, List.not_mem_nil,
    or_false, List.mem_flatMap] at h
  rcases h with h | ((rfl | rfl | rfl) | (h | h) | ⟨a, ha, h⟩) | rfl | rfl
  · exact (writtenWith_of_mem_banner h).not_mem rfl (by decide)
  · simp [hguard]
  · simp [hguard]
  · simp
  · exact (writtenWith_of_mem_includeLines h).not_mem rfl (by decide)
  · exact (writtenWith_of_mem_typeLines h).not_mem rfl (by decide)
  · exact (writtenWith_of_mem_declarationLines ha h).not_mem rfl (by decide)
  · simp
  · simp [hguard]

theorem lineFeed_not_mem_sourceLines (h : line ∈ unit.sourceLines style) :
    '\n' ∉ line.toList := by
  have hname : '\n' ∉ unit.headerName.toList := unit.writtenWith_headerName.not_mem rfl (by decide)
  simp only [sourceLines, List.mem_append, List.mem_singleton, List.mem_flatMap] at h
  rcases h with (h | rfl) | ⟨a, ha, h⟩
  · exact (writtenWith_of_mem_banner h).not_mem rfl (by decide)
  · simp [hname]
  · exact lineFeed_not_mem_definitionLines ha h

theorem lines_header (hstart : '\n' ∉ style.guardPrefix.toList) :
    lines (unit.header style) = unit.headerLines style ++ [""] :=
  Text.lines_unlines fun _ h => lineFeed_not_mem_headerLines hstart h

theorem lines_source (unit : Checked) (style : Style) :
    lines (unit.source style) = unit.sourceLines style ++ [""] :=
  Text.lines_unlines fun _ h => lineFeed_not_mem_sourceLines h

theorem accessors_flatMap {β : Type} (unit : Checked) (f : Accessor → List β) :
    unit.accessors.flatMap f =
      unit.record.fields.flatMap fun field => (Accessor.ofField unit.record.name field).flatMap f :=
  List.flatMap_assoc

/-- The prototypes of a header, with the lines in front of them. -/
theorem placesOf_header (unit : Checked) (hstart : '\n' ∉ style.guardPrefix.toList) :
    (placesOf ");" (unit.header style)).map (fun place => (place.before, place.line)) =
      unit.record.fields.flatMap fun field =>
        [(field.noteOr .getter "", getterHead unit.record.name field ++ ";"),
          (field.noteOr .setter (getterHead unit.record.name field ++ ";"),
            setterHead unit.record.name field ++ ";")] := by
  let guardName : String := Frame.includeGuard unit.headerName style
  let front : List String := unit.banner style ++
    (["#ifndef " ++ guardName, "#define " ++ guardName, ""] ++ unit.includeLines ++
      unit.typeLines style)
  let back : List String := ["", "#endif /* " ++ guardName ++ " */", ""]
  -- Between the two stand the declarations, field by field.
  have hlines : lines (unit.header style) =
      front ++ (unit.record.fields.flatMap (fun field =>
        (Accessor.ofField unit.record.name field).flatMap declarationLines) ++ back) := by
    rw [lines_header hstart, ← accessors_flatMap]
    simp [headerLines, Frame.guarded, front, back, guardName]
  have hfront : ∀ line ∈ front, endsIn ");" line = false := by
    simp only [front, List.mem_append]
    rintro line (h | (h | h) | h)
    -- The guard may hold any sign, so its lines are told apart by where they end.
    · exact endsIn_eq_false_of_writtenWith (writtenWith_of_mem_banner h) (by decide) (by decide)
    · apply endsIn_guardLine unit style
      simp only [List.mem_cons, List.not_mem_nil, or_false] at h ⊢
      tauto
    · exact endsIn_eq_false_of_writtenWith (writtenWith_of_mem_includeLines h) (by decide)
        (by decide)
    · exact endsIn_eq_false_of_writtenWith (writtenWith_of_mem_typeLines h) (by decide) (by decide)
  have hback : ∀ line ∈ back, endsIn ");" line = false := by
    intro line h
    apply endsIn_guardLine unit style
    simp only [back, List.mem_cons, List.not_mem_nil, or_false] at h ⊢
    tauto
  exact Text.map_placesOf hlines hfront hback fun field _ before after =>
    places_declarationLines unit.record.name field before after

/-- The definitions of a source file, with the lines in front of their heads and behind them. -/
theorem placesOf_source (unit : Checked) (style : Style) :
    placesOf ") \x7b" (unit.source style) =
      unit.record.fields.flatMap fun field =>
        [⟨field.noteOr .getter "", getterHead unit.record.name field ++ " \x7b",
            style.indentation ++ ("return obj->" ++ field.name ++ ";")⟩,
          ⟨field.noteOr .setter "", setterHead unit.record.name field ++ " \x7b",
            style.indentation ++ ("obj->" ++ field.name ++ " = value;")⟩] := by
  let front : List String := unit.banner style ++ ["#include \"" ++ unit.headerName ++ "\""]
  have hlines : lines (unit.source style) =
      front ++ (unit.record.fields.flatMap (fun field =>
        (Accessor.ofField unit.record.name field).flatMap (definitionLines style)) ++ [""]) := by
    rw [lines_source, ← accessors_flatMap]
    simp [sourceLines, front]
  have hfront : ∀ line ∈ front, endsIn ") \x7b" line = false := by
    simp only [front, List.mem_append, List.mem_singleton]
    rintro line (h | rfl)
    · exact endsIn_eq_false_of_writtenWith (writtenWith_of_mem_banner h) (by decide) (by decide)
    · have hname : WrittenWith "#. \"" unit.headerName :=
        unit.writtenWith_headerName.mono (by decide)
      have hsigns : WrittenWith "#. \"" ("#include \"" ++ unit.headerName ++ "\"") := by
        simp +decide only [Text.writtenWith_append, hname, and_self]
      exact endsIn_eq_false_of_writtenWith hsigns (by decide) (by decide)
  have hback : ∀ line ∈ [""], endsIn ") \x7b" line = false := by decide
  -- Nothing is left out of these places, since the line behind a head stands in the same group.
  rw [← List.map_id (placesOf _ _)]
  exact Text.map_placesOf hlines hfront hback fun field hfield before after =>
    places_definitionLines hfield before after

/-- The members of a type that has any stand in the header one after another, each with the type
that the functions of the field have. -/
theorem isInfix_members (hstart : '\n' ∉ style.guardPrefix.toList)
    (hfields : unit.record.fields ≠ []) :
    ["typedef struct " ++ unit.record.name ++ " \x7b"] ++
        unit.record.fields.map (fun field =>
          style.indentation ++ field.type.spelling ++ " " ++ field.name ++ ";") ++
        ["\x7d " ++ unit.record.name ++ ";"] <:+: lines (unit.header style) := by
  have htype : unit.typeLines style = ["typedef struct " ++ unit.record.name ++ " \x7b"] ++
      unit.record.fields.map (memberLine style) ++ ["\x7d " ++ unit.record.name ++ ";"] := by
    rw [typeLines, isIncomplete, if_neg (by simpa using hfields)]
  -- The lines of the type stand between those of the includes and of the prototypes.
  have hblock : unit.typeLines style <:+: lines (unit.header style) := by
    rw [lines_header hstart, headerLines, Frame.guarded]
    refine List.IsInfix.trans ?_ (List.prefix_append _ _).isInfix
    refine List.IsInfix.trans ?_ (List.suffix_append _ _).isInfix
    refine List.IsInfix.trans ?_ (List.prefix_append _ _).isInfix
    refine List.IsInfix.trans ?_ (List.suffix_append _ _).isInfix
    exact List.infix_append _ _ _
  rw [htype] at hblock
  exact hblock

/-- The prototypes of the header and the heads of the definitions in the source file are the same
texts in the same order: a getter and a setter for each field, with the type that the member of the
structure has. Each head is followed by the statement for its field, and what stands in front of a
prototype or a head is the note about ownership if the field is a pointer, and otherwise a blank
line or the other prototype of the field. This holds in every style whose guards stay on one line.
-/
theorem header_source_agree (unit : Checked) (style : Style)
    (hstart : '\n' ∉ style.guardPrefix.toList) :
    (lines (unit.header style)).filter (endsIn ");") = unit.record.heads.map (· ++ ";") ∧
      (lines (unit.source style)).filter (endsIn ") \x7b") = unit.record.heads.map (· ++ " \x7b") ∧
      (unit.record.fields ≠ [] →
        ["typedef struct " ++ unit.record.name ++ " \x7b"] ++
          unit.record.fields.map (fun field =>
            style.indentation ++ field.type.spelling ++ " " ++ field.name ++ ";") ++
          ["\x7d " ++ unit.record.name ++ ";"] <:+: lines (unit.header style)) ∧
      (placesOf ");" (unit.header style)).map (fun place => (place.before, place.line)) =
        (unit.record.fields.flatMap fun field =>
          [(field.noteOr .getter "", getterHead unit.record.name field ++ ";"),
            (field.noteOr .setter (getterHead unit.record.name field ++ ";"),
              setterHead unit.record.name field ++ ";")]) ∧
      placesOf ") \x7b" (unit.source style) =
        unit.record.fields.flatMap fun field =>
          [⟨field.noteOr .getter "", getterHead unit.record.name field ++ " \x7b",
              style.indentation ++ ("return obj->" ++ field.name ++ ";")⟩,
            ⟨field.noteOr .setter "", setterHead unit.record.name field ++ " \x7b",
              style.indentation ++ ("obj->" ++ field.name ++ " = value;")⟩] := by
  have hheader := placesOf_header unit hstart
  have hsource := placesOf_source unit style
  refine ⟨?_, ?_, isInfix_members hstart, hheader, hsource⟩
  · have hlines := congrArg (List.map Prod.snd) hheader
    rw [List.map_map] at hlines
    rw [← Text.map_line_placesOf]
    refine Eq.trans hlines ?_
    simp [heads, List.map_flatMap]
  · rw [← Text.map_line_placesOf, hsource]
    simp [heads, List.map_flatMap]

/-- A record with a number and a pointer. -/
def labelled : Checked := ⟨⟨"A", [⟨"n", .scalar .int⟩, ⟨"s", .pointer .string⟩]⟩, by decide⟩

/-- The prototypes and the definitions of that record, without a guard prefix. -/
theorem header_source_agree_at_labelled :
    '\n' ∉ (Style.guardPrefix {}).toList ∧
      (lines (labelled.header {})).filter (endsIn ");") = labelled.record.heads.map (· ++ ";") ∧
      (lines (labelled.source {})).filter (endsIn ") \x7b") =
        labelled.record.heads.map (· ++ " \x7b") ∧
      ["typedef struct A \x7b", "    int n;", "    char* s;", "\x7d A;"] <:+:
        lines (labelled.header {}) ∧
      (placesOf ");" (labelled.header {})).map (fun place => (place.before, place.line)) =
        [("", "int A_get_n(A* obj);"),
          ("int A_get_n(A* obj);", "void A_set_n(A* obj, int value);"),
          ("/* " ++ Accessor.Kind.getter.note ++ " */", "char* A_get_s(A* obj);"),
          ("/* " ++ Accessor.Kind.setter.note ++ " */", "void A_set_s(A* obj, char* value);")] ∧
      placesOf ") \x7b" (labelled.source {}) =
        [⟨"", "int A_get_n(A* obj) \x7b", "    return obj->n;"⟩,
          ⟨"", "void A_set_n(A* obj, int value) \x7b", "    obj->n = value;"⟩,
          ⟨"/* " ++ Accessor.Kind.getter.note ++ " */", "char* A_get_s(A* obj) \x7b",
            "    return obj->s;"⟩,
          ⟨"/* " ++ Accessor.Kind.setter.note ++ " */", "void A_set_s(A* obj, char* value) \x7b",
            "    obj->s = value;"⟩] := by
  have hstart : '\n' ∉ (Style.guardPrefix {}).toList := by decide
  obtain ⟨hheads, hdefinitions, hmembers, hheader, hsource⟩ :=
    header_source_agree labelled {} hstart
  refine ⟨hstart, hheads, hdefinitions, ?_, ?_, ?_⟩
  · exact hmembers (by decide)
  · exact hheader
  · exact hsource

end Record.Checked

end Boilerplate
