import Boilerplate.Proofs.Config.Header
import Boilerplate.Proofs.Config.Renderings
import Boilerplate.Record.Code

/-!
# What a style changes

A style is a matter of looks. It says how far lines are indented and whether there is a banner, but
not what stands behind the banner; only a header quotes the start of the guards there. In a
configuration header it also chooses how false symbols are written, and nothing but their lines
depends on that.

Two files are compared line by line, and so their lines must not shift. The start of the guards is
free text and may hold line feeds, which is why lines are counted in the text that was made, and not
before it was put together.

## Main definitions

* `Text.unindented` — the lines of a text without the blanks they start with
* `Frame.SameBody` — texts that differ in their banners and in the blanks at the starts of lines
* `Config.LinesMatch` — lines that are the same, or that write one false symbol in two ways

## Main results

* `Text.unindented_indentation_append` — indentation cannot be seen in unindented lines
* `Record.Checked.sameBody_source`, `Record.Checked.sameBody_header` — the two files of a record
* `Config.linesMatch_header` — configuration headers
* `Style.styles_differ_in_looks` — all of it
-/

namespace Boilerplate

namespace Text

/-- A line without the blanks that it starts with. -/
def unindent (line : String) : String := String.ofList (line.toList.dropWhile (· == ' '))

/-- The lines of a text, each without the blanks that it starts with. -/
def unindented (text : String) : List String := (lines text).map unindent

/-- One more blank at the start of a text is one more at the start of its first line. -/
theorem unindented_ofList_blank_cons (cs : List Char) :
    unindented (String.ofList (' ' :: cs)) = unindented (String.ofList cs) := by
  obtain ⟨line, rest, hsplit⟩ := List.exists_cons_of_ne_nil (List.splitOn_ne_nil '\n' cs)
  have hblank : (' ' :: cs).splitOn '\n' = (' ' :: line) :: rest := by
    rw [List.splitOn, List.splitOnP_cons_eq_if_modifyHead, ← List.splitOn, hsplit]
    rfl
  simp [unindented, lines, hblank, hsplit, unindent]

/-- Indentation is gone once lines are no longer indented, however far it went. -/
theorem unindented_indentation_append (style : Style) (text : String) :
    unindented (style.indentation ++ text) = unindented text := by
  have hblanks (n : Nat) :
      unindented (String.ofList (List.replicate n ' ' ++ text.toList)) = unindented text := by
    induction n with
    | zero => simp
    | succ n ih => rw [List.replicate_succ, List.cons_append, unindented_ofList_blank_cons, ih]
  simpa [Style.indentation] using hblanks style.indent

theorem unindented_unlines (front : List String) :
    unindented (unlines front) = front.flatMap unindented ++ [""] := by
  rw [unindented, lines_unlines_eq_flatMap, List.map_append, List.map_flatMap]
  rfl

end Text

open Text (unindented unlines)

/-! ### Records -/

/-- Whether two texts are the same behind their banners, apart from how far their lines are
indented. -/
def Frame.SameBody (banner banner' : List String) (text text' : String) : Prop :=
  ∃ body body' : String, text = unlines banner ++ body ∧ text' = unlines banner' ++ body' ∧
    unindented body = unindented body'

theorem Frame.sameBody_of_lines {banner banner' body body' : List String}
    (h : body.flatMap unindented = body'.flatMap unindented) :
    SameBody banner banner' (unlines (banner ++ body)) (unlines (banner' ++ body')) := by
  refine ⟨unlines body, unlines body', Text.unlines_append _ _, Text.unlines_append _ _, ?_⟩
  rw [Text.unindented_unlines, h, Text.unindented_unlines]

namespace Record.Checked

variable {style style' : Style}

theorem unindented_memberLine (style : Style) (field : Field) :
    unindented (memberLine style field) =
      unindented (field.type.spelling ++ " " ++ field.name ++ ";") := by
  simp only [memberLine, String.append_assoc, Text.unindented_indentation_append]

theorem unindented_typeLines (unit : Checked) (style style' : Style) :
    (unit.typeLines style).flatMap unindented = (unit.typeLines style').flatMap unindented := by
  unfold typeLines
  split
  · rfl
  · simp only [List.flatMap_append, List.flatMap_map, unindented_memberLine]

theorem unindented_definitionLines (style style' : Style) (a : Accessor) :
    (definitionLines style a).flatMap unindented =
      (definitionLines style' a).flatMap unindented := by
  simp only [definitionLines, List.flatMap_append, List.flatMap_cons,
    Text.unindented_indentation_append]

/-- The source files of a record say the same in all styles. -/
theorem sameBody_source (unit : Checked) (style style' : Style) :
    Frame.SameBody (unit.banner style) (unit.banner style') (unit.source style)
      (unit.source style') := by
  simp only [source, sourceLines, List.append_assoc]
  apply Frame.sameBody_of_lines
  simp only [List.flatMap_append, List.flatMap_assoc, unindented_definitionLines style style']

/-- The headers of a record say the same in all styles whose guards start the same. -/
theorem sameBody_header (unit : Checked) (h : style.guardPrefix = style'.guardPrefix) :
    Frame.SameBody (unit.banner style) (unit.banner style') (unit.header style)
      (unit.header style') := by
  apply Frame.sameBody_of_lines
  simp only [Frame.guarded, Frame.includeGuard, h, List.flatMap_append,
    unit.unindented_typeLines style style']

end Record.Checked

/-! ### Configurations -/

namespace Config

/-- Whether two lines in headers of one configuration match in two styles: they are the same, or the
styles write false symbols in different ways and these are the lines of one of them. -/
inductive LinesMatch (config : Config) (style style' : Style) : String → String → Prop
  | same (line : String) : LinesMatch config style style' line line
  | negative {symbol : String} (hnegatives : style.negatives ≠ style'.negatives)
    (hentry : (symbol, false) ∈ config.entries) :
    LinesMatch config style style' (symbolLine style (symbol, false))
      (symbolLine style' (symbol, false))

variable {config : Config} {style style' : Style} {entry : String × Bool} {host : Host}

theorem linesMatch_symbolLine (hentry : entry ∈ config.entries) :
    LinesMatch config style style' (symbolLine style entry) (symbolLine style' entry) := by
  obtain ⟨symbol, value⟩ := entry
  cases value with
  | true => exact .same _
  | false =>
    by_cases hnegatives : style.negatives = style'.negatives
    · have hline : symbolLine style (symbol, false) = symbolLine style' (symbol, false) := by
        simp only [symbolLine, hnegatives]
      rw [hline]
      exact .same _
    · exact .negative hnegatives hentry

/-- Headers of one configuration match line by line in all styles whose guards start the same, as
long as all of them have a banner or none does. -/
theorem linesMatch_header (hconfig : config.IsResult) (host : Host)
    (hguard : style.guardPrefix = style'.guardPrefix) (hbanner : style.banner = style'.banner) :
    List.Forall₂ (LinesMatch config style style') (Text.lines (config.header host style))
      (Text.lines (config.header host style')) := by
  have hsame (front : List String) :
      List.Forall₂ (LinesMatch config style style') front front :=
    List.forall₂_same.mpr fun line _ => .same line
  have hsymbols : List.Forall₂ (LinesMatch config style style')
      ((config.entries.map (symbolLine style)).flatMap Text.lines)
      ((config.entries.map (symbolLine style')).flatMap Text.lines) := by
    -- Symbols hold no line feed, so each of them keeps to its line.
    have hfeed (style : Style) : ∀ line ∈ config.entries.map (symbolLine style),
        '\n' ∉ line.toList :=
      List.forall_mem_map.mpr fun entry hentry =>
        lineFeed_not_mem_symbolLine (hconfig.fault?_of_mem_entries entry hentry)
    rw [Text.flatMap_lines (hfeed style), Text.flatMap_lines (hfeed style'),
      List.forall₂_map_left_iff, List.forall₂_map_right_iff, List.forall₂_same]
    exact fun entry hentry => linesMatch_symbolLine hentry
  -- The lines around the symbols are the same, however many they are.
  simp only [header, headerLines_eq, Text.lines_unlines_eq_flatMap, List.flatMap_append,
    Frame.banner, Frame.includeGuard, hguard, hbanner]
  exact List.rel_append (List.rel_append (hsame _)
    (List.rel_append (hsame _) (List.rel_append hsymbols (hsame _)))) (hsame _)

end Config

/-! ### All files -/

/-- Styles differ in looks alone. Behind their banners, the source files of a record say the same in
any two styles once no line is indented, and so do the headers if the guards start the same. The
headers of a result have the same lines in two styles whose guards start the same and of which both
have a banner or neither does, except for the lines of false symbols, and except for these only if
the styles write such symbols in different ways. -/
theorem Style.styles_differ_in_looks (style style' : Style) :
    (∀ unit : Record.Checked,
      Frame.SameBody (unit.banner style) (unit.banner style')
        (unit.source style) (unit.source style') ∧
      (style.guardPrefix = style'.guardPrefix →
        Frame.SameBody (unit.banner style) (unit.banner style')
          (unit.header style) (unit.header style'))) ∧
    (style.guardPrefix = style'.guardPrefix → style.banner = style'.banner →
      ∀ (config : Config) (host : Host), config.IsResult →
        List.Forall₂ (config.LinesMatch style style')
          (Text.lines (config.header host style)) (Text.lines (config.header host style'))) :=
  ⟨fun unit => ⟨unit.sameBody_source style style', unit.sameBody_header⟩,
    fun hguard hbanner _ host hconfig => Config.linesMatch_header hconfig host hguard hbanner⟩

/-- Lines that are not indented, and false symbols that are defined as zero. -/
def Style.tight : Style := { negatives := .zero, indent := 0 }

/-- The header of a record and that of a configuration, in the usual style and in this one. -/
theorem Style.styles_differ_in_looks_at_tight :
    let unit : Record.Checked := ⟨⟨"A", [⟨"n", .scalar .int⟩]⟩, by decide⟩
    let config : Config := ⟨[("HAS_FORK", false)]⟩
    Frame.SameBody (unit.banner {}) (unit.banner tight) (unit.header {}) (unit.header tight) ∧
      config.IsResult ∧ List.Forall₂ (config.LinesMatch {} tight)
        (Text.lines (config.header Config.plainHost {}))
        (Text.lines (config.header Config.plainHost tight)) :=
  ⟨((styles_differ_in_looks {} tight).1 _).2 rfl, Config.isResult_hasFork,
    (styles_differ_in_looks {} tight).2 rfl rfl _ _ Config.isResult_hasFork⟩

end Boilerplate
