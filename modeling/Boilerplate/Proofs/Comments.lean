import Boilerplate.Proofs.Config.Header
import Boilerplate.Proofs.Record.Code

/-!
# Where the comments of generated files end

Generated files quote foreign text in comments: the name of a record or a host, and the macro of the
include guard behind the last directive. A comment ends at the first `*/`, so the files must hold no
more of these than they open comments. Names cannot hold one, and hosts are escaped.

The start of the guards, however, is free text that is neither checked nor escaped, and each header
writes the guard three times. Every `*/` in it is found three times in the header; nothing else ever
adds one. Source files have no guard, so their comments always end where they should.

## Main definitions

* `Text.commentEndsIn` — how often `*/` occurs in a list of lines
* `Record.Checked.sourceComments`, `Record.Checked.headerComments`, `Config.headerComments` — the
  number of comments that the files open

## Main results

* `Text.commentEnds_unlines` — the count of a text is that of its lines
* `Frame.commentEndsIn_banner`, `Frame.commentEndsIn_guarded` — the counts of the frame of a file
* `Record.Checked.commentEnds_source`, `Record.Checked.commentEnds_header`,
  `Config.commentEnds_header` — the counts of the three files
* `Style.commentEnds_generated` — all of them, for results of evaluation
* `Style.guardPrefix_closes_comments` — a start of the guards that ends a comment early
-/

namespace Boilerplate

namespace Text

/-- The number of times that `*/` occurs in a list of lines. -/
def commentEndsIn (lines : List String) : Nat :=
  (lines.map fun line => commentEnds line.toList).sum

variable {line : String} {lines front back : List String} {α : Type} {xs : List α}

@[simp] theorem commentEndsIn_nil : commentEndsIn [] = 0 := rfl

@[simp] theorem commentEndsIn_cons :
    commentEndsIn (line :: lines) = commentEnds line.toList + commentEndsIn lines := by
  simp [commentEndsIn]

@[simp] theorem commentEndsIn_append :
    commentEndsIn (front ++ back) = commentEndsIn front + commentEndsIn back := by
  simp [commentEndsIn]

/-- No `*/` arises between two lines, since a line feed parts them. -/
theorem commentEnds_unlines (lines : List String) :
    commentEnds (unlines lines).toList = commentEndsIn lines := by
  rw [toList_unlines]
  -- A line feed belongs to no `*/`, so lines are counted one by one.
  induction lines with
  | nil => rfl
  | cons line lines ih =>
    rw [List.flatMap_cons, List.append_assoc, List.singleton_append,
      commentEnds_append_cons '\n' (by decide) (by decide), ih, commentEndsIn_cons]

/-- Lines without a slash end no comment. -/
theorem commentEndsIn_of_slash_not_mem (h : ∀ line ∈ lines, '/' ∉ line.toList) :
    commentEndsIn lines = 0 := by
  rw [commentEndsIn, List.sum_eq_zero_iff_forall_eq_nat, List.forall_mem_map]
  exact fun line hline => commentEnds_of_slash_not_mem (h line hline)

/-- A comment on a line of its own ends once, and where its body ends one. -/
theorem commentEnds_comment (body : String) :
    commentEnds ("/* " ++ body ++ " */").toList = commentEnds body.toList + 1 := by
  have hline : ("/* " ++ body ++ " */").toList =
      "/*".toList ++ ' ' :: (body.toList ++ ' ' :: "*/".toList) := by simp
  have hopen : commentEnds "/*".toList = 0 := by decide
  have hclose : commentEnds "*/".toList = 1 := by decide
  rw [hline, commentEnds_append_cons ' ' (by decide) (by decide),
    commentEnds_append_cons ' ' (by decide) (by decide), hopen, hclose, Nat.zero_add]

theorem commentEnds_commentText (s : String) : commentEnds (commentText s).toList = 0 := by
  rw [toList_commentText, commentEnds_escapeEnds]

/-- Groups of lines, each of which ends one comment or none, are counted by the groups that do. -/
theorem commentEndsIn_flatMap {f : α → List String} {p : α → Bool}
    (h : ∀ x ∈ xs, commentEndsIn (f x) = if p x then 1 else 0) :
    commentEndsIn (xs.flatMap f) = xs.countP p := by
  induction xs with
  | nil => rfl
  | cons x xs ih =>
    rw [List.forall_mem_cons] at h
    rw [List.flatMap_cons, commentEndsIn_append, h.1, ih h.2, List.countP_cons, Nat.add_comm]

end Text

/-! ### Frames -/

/-- The number of comments in the banner of a file. -/
def Style.bannerComments (style : Style) : Nat := if style.banner then 1 else 0

namespace Frame

open Text (commentEnds commentEndsIn commentEnds_append_cons)

variable {style : Style} {fileName guardName : String} {body : List String}

/-- The banner ends its comment once, whatever a file was generated from. -/
theorem commentEndsIn_banner (subject : String) (digest : Digest) (style : Style) :
    commentEndsIn (banner subject digest style) = style.bannerComments := by
  by_cases hbanner : style.banner = true
  · -- Of the four lines, only the first quotes foreign text, and it is escaped.
    have hfirst : commentEnds ("/* Generated by scaffold from " ++ Text.commentText subject ++
        ". Do not edit.").toList = 0 := by
      have hline : ("/* Generated by scaffold from " ++ Text.commentText subject ++
          ". Do not edit.").toList = "/* Generated by scaffold from".toList ++
            ' ' :: ((Text.commentText subject).toList ++ ". Do not edit.".toList) := by simp
      have hopen : commentEnds "/* Generated by scaffold from".toList = 0 := by decide
      rw [hline, commentEnds_append_cons ' ' (by decide) (by decide), hopen,
        Text.commentEnds_append_of_slash_not_mem (by decide), Text.commentEnds_commentText]
    have hdigest : commentEnds (" * input digest: sha256:" ++ digest.short).toList = 0 :=
      Text.commentEnds_of_slash_not_mem (by simp [digest.slash_not_mem_short])
    have hlast : commentEnds " */".toList = 1 := by decide
    simp only [banner, hbanner, if_true, Style.bannerComments, Text.commentEndsIn_cons, hfirst,
      hdigest, hlast, Text.commentEndsIn_nil]
    rfl
  · simp [banner, Style.bannerComments, hbanner]

/-- The file name adds no `*/` to a guard, not even together with what stands before it. -/
theorem commentEnds_includeGuard (fileName : String) (style : Style) :
    commentEnds (includeGuard fileName style).toList = commentEnds style.guardPrefix.toList := by
  rw [includeGuard, String.toList_append, Text.commentEnds_append_of_slash_not_mem]
  intro hslash
  exact absurd (Identifier.isPart_of_mem_macroCase hslash) (by decide)

/-- Guarded lines end one comment more than the lines themselves, and besides that whatever the
guard ends where it is written: in both directives at the start, and behind the one at the end. -/
theorem commentEndsIn_guarded (guardName : String) (body : List String) :
    commentEndsIn (guarded guardName body) =
      commentEndsIn body + 1 + 3 * commentEnds guardName.toList := by
  have hifndef : commentEnds ("#ifndef " ++ guardName).toList = commentEnds guardName.toList := by
    rw [String.toList_append, Text.commentEnds_append_of_front (by decide) (by decide)]
  have hdefine : commentEnds ("#define " ++ guardName).toList = commentEnds guardName.toList := by
    rw [String.toList_append, Text.commentEnds_append_of_front (by decide) (by decide)]
  -- The last line is a directive and a comment, and the guard stands in the comment.
  have hendif : commentEnds ("#endif /* " ++ guardName ++ " */").toList =
      commentEnds guardName.toList + 1 := by
    have hline : ("#endif /* " ++ guardName ++ " */").toList =
        "#endif ".toList ++ ("/* " ++ guardName ++ " */").toList := by simp
    rw [hline, Text.commentEnds_append_of_front (by decide) (by decide), Text.commentEnds_comment]
  have hempty : commentEnds "".toList = 0 := rfl
  simp only [guarded, Text.commentEndsIn_append, Text.commentEndsIn_cons, Text.commentEndsIn_nil,
    hifndef, hdefine, hendif, hempty]
  omega

end Frame

/-! ### Records -/

namespace Record.Checked

open Text (commentEnds commentEndsIn)

variable {unit : Checked} {style : Style} {a : Accessor}

/-- The number of comments in the source file of a record: the banner, and a note for each accessor
that has one. -/
def sourceComments (unit : Checked) (style : Style) : Nat :=
  style.bannerComments + unit.accessors.countP fun a => a.note?.isSome

/-- The number of comments in the header of a record: those of the source file, and the one behind
the last directive. -/
def headerComments (unit : Checked) (style : Style) : Nat := unit.sourceComments style + 1

theorem commentEndsIn_noteLines (a : Accessor) :
    commentEndsIn (noteLines a) = if a.note?.isSome then 1 else 0 := by
  by_cases hpointer : a.type.isPointer = true
  · have hnote : commentEnds a.kind.note.toList = 0 := by cases a.kind <;> decide +kernel
    have hline : noteLines a = ["/* " ++ a.kind.note ++ " */"] := by
      simp only [noteLines, Accessor.note?, hpointer, if_true]
    rw [hline, Text.commentEndsIn_cons, Text.commentEnds_comment, hnote]
    simp [Accessor.note?, hpointer]
  · simp [noteLines, Accessor.note?, hpointer]

theorem slash_not_mem_prototype (ha : a ∈ unit.accessors) : '/' ∉ a.prototype.toList :=
  (writtenWith_prototype ha).not_mem rfl (by decide)

theorem commentEndsIn_declarationLines (ha : a ∈ unit.accessors) :
    commentEndsIn (declarationLines a) = if a.note?.isSome then 1 else 0 := by
  have hblank : commentEndsIn (if a.kind = .getter then [""] else []) = 0 := by
    split <;> rfl
  have hprototype : '/' ∉ (a.prototype ++ ";").toList := by
    simp [slash_not_mem_prototype ha]
  rw [declarationLines, Text.commentEndsIn_append, Text.commentEndsIn_append, hblank,
    commentEndsIn_noteLines, Text.commentEndsIn_cons, Text.commentEnds_of_slash_not_mem hprototype,
    Text.commentEndsIn_nil, Nat.zero_add, Nat.add_zero]

theorem commentEndsIn_definitionLines (ha : a ∈ unit.accessors) :
    commentEndsIn (definitionLines style a) = if a.note?.isSome then 1 else 0 := by
  have hdefinition : ∀ line ∈ [a.prototype ++ " \x7b", style.indentation ++ a.statement, "\x7d"],
      '/' ∉ line.toList := by
    have hstatement : '/' ∉ a.statement.toList :=
      (writtenWith_statement ha).not_mem rfl (by decide)
    have hindentation : '/' ∉ style.indentation.toList :=
      style.writtenWith_indentation.not_mem rfl (by decide)
    simp [slash_not_mem_prototype ha, hstatement, hindentation]
  rw [definitionLines, Text.commentEndsIn_append, Text.commentEndsIn_append,
    commentEndsIn_noteLines, Text.commentEndsIn_of_slash_not_mem hdefinition]
  exact Nat.zero_add _

theorem commentEndsIn_bannerLines (unit : Checked) (style : Style) :
    commentEndsIn (unit.banner style) = style.bannerComments :=
  Frame.commentEndsIn_banner _ _ style

/-- No source file ends a comment early. -/
theorem commentEnds_source (unit : Checked) (style : Style) :
    commentEnds (unit.source style).toList = unit.sourceComments style := by
  have hinclude : ∀ line ∈ ["#include \"" ++ unit.headerName ++ "\""], '/' ∉ line.toList := by
    have hname : '/' ∉ unit.headerName.toList :=
      unit.writtenWith_headerName.not_mem rfl (by decide)
    simp [hname]
  -- Besides the banner, only the notes of accessors are comments.
  have haccessors : commentEndsIn (unit.accessors.flatMap (definitionLines style)) =
      unit.accessors.countP fun a => a.note?.isSome :=
    Text.commentEndsIn_flatMap fun _ ha => commentEndsIn_definitionLines ha
  rw [source, Text.commentEnds_unlines, sourceLines, Text.commentEndsIn_append,
    Text.commentEndsIn_append, unit.commentEndsIn_bannerLines,
    Text.commentEndsIn_of_slash_not_mem hinclude, haccessors]
  rfl

theorem commentEnds_header (unit : Checked) (style : Style) :
    commentEnds (unit.header style).toList =
      unit.headerComments style + 3 * commentEnds style.guardPrefix.toList := by
  have hincludes : commentEndsIn unit.includeLines = 0 :=
    Text.commentEndsIn_of_slash_not_mem fun _ hline =>
      (writtenWith_of_mem_includeLines hline).not_mem rfl (by decide)
  have htype : commentEndsIn (unit.typeLines style) = 0 :=
    Text.commentEndsIn_of_slash_not_mem fun _ hline =>
      (writtenWith_of_mem_typeLines hline).not_mem rfl (by decide)
  have haccessors : commentEndsIn (unit.accessors.flatMap declarationLines) =
      unit.accessors.countP fun a => a.note?.isSome :=
    Text.commentEndsIn_flatMap fun _ ha => commentEndsIn_declarationLines ha
  rw [header, Text.commentEnds_unlines, headerLines, Text.commentEndsIn_append,
    unit.commentEndsIn_bannerLines, Frame.commentEndsIn_guarded, Text.commentEndsIn_append,
    Text.commentEndsIn_append, hincludes, htype, haccessors, Frame.commentEnds_includeGuard,
    headerComments, sourceComments]
  omega

end Record.Checked

/-! ### Configurations -/

namespace Config

open Text (commentEnds commentEndsIn)

variable {config : Config} {host : Host} {style : Style} {entry : String × Bool}

/-- The number of comments in a configuration header: the banner, the host, one for each symbol
that stays undefined, and the one behind the last directive. -/
def headerComments (config : Config) (style : Style) : Nat :=
  style.bannerComments + 1 +
    (config.entries.countP fun entry => !entry.2 && style.negatives = .undefined) + 1

theorem commentEnds_hostLine (host : Host) : commentEnds (hostLine host).toList = 1 := by
  have hline : hostLine host = "/* " ++ ("Host: " ++ Text.commentText host.text) ++ " */" := by
    simp [hostLine, ← String.toList_inj]
  have hbody : commentEnds ("Host: " ++ Text.commentText host.text).toList = 0 := by
    rw [String.toList_append, Text.commentEnds_append_of_front (by decide) (by decide),
      Text.commentEnds_commentText]
  rw [hline, Text.commentEnds_comment, hbody]

/-- The line of a symbol is a comment if the symbol stays undefined, and code otherwise. -/
theorem commentEnds_symbolLine (h : Identifier.fault? entry.1 = none) :
    commentEnds (symbolLine style entry).toList =
      if (!entry.2 && style.negatives = .undefined) then 1 else 0 := by
  have hsymbol : '/' ∉ entry.1.toList := Identifier.not_mem_of_not_isPart h rfl
  -- Identifiers hold no slash, so only the marks of a comment count.
  by_cases hvalue : entry.2 = true
  · have hdefine : commentEnds ("#define " ++ entry.1 ++ " 1").toList = 0 :=
      Text.commentEnds_of_slash_not_mem (by simp [hsymbol])
    simpa [symbolLine, hvalue] using hdefine
  · cases hnegatives : style.negatives with
    | undefined =>
      have hline : "/* #undef " ++ entry.1 ++ " */" = "/* " ++ ("#undef " ++ entry.1) ++ " */" := by
        simp [← String.toList_inj]
      have hbody : commentEnds ("#undef " ++ entry.1).toList = 0 :=
        Text.commentEnds_of_slash_not_mem (by simp [hsymbol])
      have hcomment : commentEnds ("/* #undef " ++ entry.1 ++ " */").toList = 1 := by
        rw [hline, Text.commentEnds_comment, hbody]
      simpa [symbolLine, hvalue, hnegatives] using hcomment
    | zero =>
      have hdefine : commentEnds ("#define " ++ entry.1 ++ " 0").toList = 0 :=
        Text.commentEnds_of_slash_not_mem (by simp [hsymbol])
      simpa [symbolLine, hvalue, hnegatives] using hdefine

theorem commentEnds_header (host : Host) (style : Style)
    (hconfig : ∀ entry ∈ config.entries, Identifier.fault? entry.1 = none) :
    commentEnds (config.header host style).toList =
      config.headerComments style + 3 * commentEnds style.guardPrefix.toList := by
  have hsymbols : commentEndsIn (config.entries.map (symbolLine style)) =
      config.entries.countP fun entry => !entry.2 && style.negatives = .undefined := by
    rw [List.map_eq_flatMap]
    apply Text.commentEndsIn_flatMap
    intro entry hentry
    rw [Text.commentEndsIn_cons, commentEnds_symbolLine (hconfig entry hentry)]
    rfl
  rw [header, Text.commentEnds_unlines, headerLines, Text.commentEndsIn_append,
    Frame.commentEndsIn_banner, Frame.commentEndsIn_guarded, Text.commentEndsIn_cons,
    commentEnds_hostLine, hsymbols, Frame.commentEnds_includeGuard, headerComments]
  omega

end Config

/-! ### All files -/

namespace Style

open Text (commentEnds)

/-- How often `*/` occurs in generated files, in every style and for every record and result: as
often as the file opens a comment, and in headers three times more for each `*/` in the start of the
guards. So comments end where they should in every source file, and in the headers exactly if the
start of the guards holds no `*/`. -/
theorem commentEnds_generated (style : Style) (unit : Record.Checked) (host : Host)
    {config : Config} (hconfig : config.IsResult) :
    commentEnds (unit.source style).toList = unit.sourceComments style ∧
      commentEnds (unit.header style).toList =
        unit.headerComments style + 3 * commentEnds style.guardPrefix.toList ∧
      commentEnds (config.header host style).toList =
        config.headerComments style + 3 * commentEnds style.guardPrefix.toList :=
  ⟨unit.commentEnds_source style, unit.commentEnds_header style,
    config.commentEnds_header host style hconfig.fault?_of_mem_entries⟩

/-- A style whose guards end the comment behind the last directive. -/
def closing : Style := { guardPrefix := "*/", banner := false }

/-- A record with a pointer, so that its accessors have notes. -/
def pointing : Record.Checked := ⟨⟨"A", [⟨"s", .pointer .string⟩]⟩, by decide⟩

/-- The counts in that style. -/
theorem commentEnds_generated_at_closing :
    Config.IsResult ⟨[("HAS_FORK", false)]⟩ ∧
      commentEnds (pointing.source closing).toList = pointing.sourceComments closing ∧
      commentEnds (pointing.header closing).toList =
        pointing.headerComments closing + 3 * commentEnds closing.guardPrefix.toList ∧
      commentEnds (Config.header ⟨[("HAS_FORK", false)]⟩ Config.plainHost closing).toList =
        Config.headerComments ⟨[("HAS_FORK", false)]⟩ closing +
          3 * commentEnds closing.guardPrefix.toList :=
  ⟨Config.isResult_hasFork,
    commentEnds_generated closing pointing Config.plainHost Config.isResult_hasFork⟩

/-- In that style, the header of a host without any probes holds five `*/` and opens two comments.
The header of a record holds more than it opens, too. -/
theorem guardPrefix_closes_comments :
    Config.evaluate Config.plainHost.text [] {} = .ok {} ∧
      commentEnds (Config.header {} Config.plainHost closing).toList = 5 ∧
      Config.headerComments {} closing = 2 ∧
      commentEnds (pointing.header closing).toList ≠ pointing.headerComments closing := by
  have hevaluate : Config.evaluate Config.plainHost.text [] {} = .ok {} := by decide
  have hresult : Config.IsResult {} := ⟨_, _, _, hevaluate⟩
  have hopened : Config.headerComments {} closing = 2 := rfl
  -- The start of the guard ends one comment, so each header has three ends too many.
  have hclosing : commentEnds closing.guardPrefix.toList = 1 := by decide
  refine ⟨hevaluate, ?_, hopened, ?_⟩
  · rw [Config.commentEnds_header Config.plainHost closing hresult.fault?_of_mem_entries, hopened,
      hclosing]
  · rw [pointing.commentEnds_header, hclosing]
    omega

end Style

end Boilerplate
