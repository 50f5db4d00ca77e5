import Boilerplate.Config.Header
import Boilerplate.Proofs.Config
import Boilerplate.Proofs.Frame

/-!
# What a configuration header defines

The preprocessor sees three things of a configuration header: its guard, one definition for each
symbol that the style defines, and the end of the guard. The banner, the host and the symbols that
stay undefined are comments, and no host can end one early. So a program that includes the header
finds each symbol as the configuration has it.

There is one exception. The guard is a macro as well, and nothing keeps a symbol from being named
like it. Such a symbol is defined as empty if the style leaves it undefined, and defined a second
time if the style gives it a value.

## Main definitions

* `Config.guard` — the macro that guards a configuration header
* `Config.expected` — what a symbol has to be defined as
* `Config.Means` — whether a header defines each symbol as the configuration has it

## Main results

* `Config.directives_header` — the directives of a configuration header
* `Config.header_means_iff` — headers mean what the configuration says, guards apart
* `Config.symbol_named_like_guard` — a symbol that is named like the guard
-/

namespace Boilerplate.Config

open Preprocessor (words Directive directives run)
open Text (Leaves commentEnds)

/-- The macro that guards a configuration header. -/
def guard (style : Style) : String := Frame.includeGuard headerName style

/-- What a symbol has to be defined as: true symbols as one, and false symbols either not at all or
as zero, depending on the style. -/
def expected (style : Style) (value : Bool) : Option String :=
  if value then some "1"
  else
    match style.negatives with
    | .undefined => none
    | .zero => some "0"

/-- The symbols that are defined, each with its replacement. -/
def definitions (config : Config) (style : Style) : List (String × String) :=
  config.entries.filterMap fun entry => (expected style entry.2).map (entry.1, ·)

/-- Whether a program that includes the header, with no macro defined before, finds each symbol as
the configuration has it. In particular the header must not define a macro that is defined. -/
def Means (config : Config) (host : Host) (style : Style) : Prop :=
  ∃ macros, run (config.header host style) = .ok macros ∧
    ∀ entry ∈ config.entries, macros.lookup entry.1 = expected style entry.2

variable {config : Config} {host : Host} {style : Style} {entry : String × Bool} {symbol : String}

/-! ### Lines -/

/-- The code of the line for a symbol: its definition, or nothing. -/
def symbolCode (style : Style) (entry : String × Bool) : List Char :=
  match expected style entry.2 with
  | some replacement => ("#define " ++ entry.1 ++ " " ++ replacement).toList
  | none => []

/-- A comment on a line of its own leaves nothing. It may start with a keyword. -/
theorem leaves_commentLine {keyword body : List Char} (hkeyword : '/' ∉ keyword)
    (hlast : keyword.getLast? = some ' ') (hbody : commentEnds body = 0) :
    Leaves ("/* ".toList ++ (keyword ++ (body ++ " */".toList))) [] := by
  have hfront : '/' ∉ ' ' :: keyword := by simp [hkeyword]
  have hblank : (' ' :: keyword).getLast? ≠ some '*' := by simp [List.getLast?_cons, hlast]
  have hinside : commentEnds ((' ' :: keyword) ++ (body ++ [' '])) = 0 := by
    rw [Text.commentEnds_surround hfront hblank (by decide), hbody]
  simpa using Text.leaves_comment hinside

theorem leaves_hostLine (host : Host) : Leaves (hostLine host).toList [] := by
  have hhost : commentEnds (Text.commentText host.text).toList = 0 := by
    rw [Text.toList_commentText, Text.commentEnds_escapeEnds]
  have hline : Leaves ("/* ".toList ++ ("Host: ".toList ++
      ((Text.commentText host.text).toList ++ " */".toList))) [] :=
    leaves_commentLine (by decide) (by decide) hhost
  simpa [hostLine] using hline

theorem leaves_symbolLine (h : Identifier.fault? entry.1 = none) :
    Leaves (symbolLine style entry).toList (symbolCode style entry) := by
  have hslash : '/' ∉ entry.1.toList := Identifier.not_mem_of_not_isPart h (by decide)
  have hdefine (digit : Char) (hdigit : digit ≠ '/') :
      Leaves ("#define ".toList ++ (entry.1.toList ++ [' ', digit]))
        ("#define ".toList ++ (entry.1.toList ++ [' ', digit])) :=
    Text.leaves_of_slash_not_mem (by simp [hslash, hdigit.symm])
  -- A symbol that stays undefined stands in a comment, which it cannot end.
  have hundef :
      Leaves ("/* ".toList ++ ("#undef ".toList ++ (entry.1.toList ++ " */".toList))) [] :=
    leaves_commentLine (by decide) (by decide) (Text.commentEnds_of_slash_not_mem hslash)
  by_cases hvalue : entry.2 = true
  · simpa [symbolLine, symbolCode, expected, hvalue] using hdefine '1' (by decide)
  · cases hnegatives : style.negatives with
    | undefined => simpa [symbolLine, symbolCode, expected, hvalue, hnegatives] using hundef
    | zero =>
      simpa [symbolLine, symbolCode, expected, hvalue, hnegatives] using hdefine '0' (by decide)

theorem eq_of_expected {value : Bool} {replacement : String}
    (h : expected style value = some replacement) : replacement = "1" ∨ replacement = "0" := by
  cases value with
  | true => exact .inl (by simpa [expected, eq_comm] using h)
  | false =>
    cases hnegatives : style.negatives with
    | undefined => simp [expected, hnegatives] at h
    | zero => exact .inr (by simpa [expected, hnegatives, eq_comm] using h)

theorem lineFeed_not_mem_symbolCode (h : Identifier.fault? entry.1 = none) :
    '\n' ∉ symbolCode style entry := by
  have hname : '\n' ∉ entry.1.toList := Identifier.not_mem_of_not_isPart h rfl
  cases hvalue : expected style entry.2 with
  | none => simp [symbolCode, hvalue]
  | some replacement =>
    rcases eq_of_expected hvalue with rfl | rfl <;> simp [symbolCode, hvalue, hname]

/-- The directive on the line for a symbol defines it as it has to be. -/
theorem ofWords_symbolCode (h : Identifier.fault? entry.1 = none) :
    Directive.ofWords (words (symbolCode style entry)) =
      (expected style entry.2).map fun replacement => .define entry.1 replacement := by
  cases hvalue : expected style entry.2 with
  | none => simp [symbolCode, hvalue]
  | some replacement =>
    have hword : words replacement.toList = [replacement] := by
      rcases eq_of_expected hvalue with rfl | rfl <;> decide
    have hpart : ∀ c ∈ entry.1.toList, Identifier.isPart c = true := fun _ hc =>
      Identifier.isPart_of_mem h hc
    simp only [symbolCode, hvalue, Option.map_some]
    exact Preprocessor.ofWords_define_replacement (Identifier.ne_empty_of_fault? h) hpart hword

/-! ### The header -/

theorem spelled_guard (hstyle : Frame.Spelled style) :
    guard style ≠ "" ∧ ∀ c ∈ (guard style).toList, Identifier.isPart c = true := by
  constructor
  · -- Even without a start, the guard has the name of the header in it.
    intro hempty
    have hname : Identifier.macroCase headerName = "" :=
      (String.append_eq_empty_iff.mp hempty).2
    exact absurd hname (by decide)
  · intro c hc
    exact Frame.isPart_of_mem_includeGuard hstyle hc

/-- The directives of a configuration header: its guard, with a definition for each symbol that the
style defines in between. The host says nothing. -/
theorem directives_header (host : Host) (hstyle : Frame.Spelled style)
    (hconfig : ∀ entry ∈ config.entries, Identifier.fault? entry.1 = none) :
    directives (config.header host style).toList =
      .ifndef (guard style) :: .define (guard style) "" ::
        (((config.definitions style).map fun pair => Directive.define pair.1 pair.2) ++
          [.endif]) := by
  have hlines : List.Forall₂ (fun line code => Leaves (String.toList line) code)
      (config.entries.map (symbolLine style)) (config.entries.map (symbolCode style)) := by
    rw [List.forall₂_map_left_iff, List.forall₂_map_right_iff, List.forall₂_same]
    intro entry hentry
    exact leaves_symbolLine (hconfig entry hentry)
  have hcodes : ∀ code ∈ [] :: config.entries.map (symbolCode style), '\n' ∉ code := by
    rw [List.forall_mem_cons, List.forall_mem_map]
    exact ⟨List.not_mem_nil, fun entry hentry => lineFeed_not_mem_symbolCode (hconfig entry hentry)⟩
  have hdefinitions : ([] :: config.entries.map (symbolCode style)).filterMap
        (fun code => Directive.ofWords (words code)) =
      (config.definitions style).map fun pair => Directive.define pair.1 pair.2 := by
    simp only [List.filterMap_cons, Preprocessor.ofWords_nil, List.filterMap_map, definitions,
      List.map_filterMap]
    apply List.filterMap_congr
    intro entry hentry
    rw [Function.comp_apply, ofWords_symbolCode (hconfig entry hentry), Option.map_map]
    rfl
  obtain ⟨hne, hpart⟩ := spelled_guard hstyle
  rw [header, headerLines, ← hdefinitions]
  exact Frame.directives_guarded _ _ style hne hpart (.cons (leaves_hostLine host) hlines) hcodes

/-! ### What is defined -/

theorem mem_definitions_iff {replacement : String} :
    (symbol, replacement) ∈ config.definitions style ↔
      ∃ value, (symbol, value) ∈ config.entries ∧ expected style value = some replacement := by
  simp only [definitions, List.mem_filterMap, Option.map_eq_some_iff, Prod.mk.injEq]
  constructor
  · rintro ⟨⟨_, value⟩, hentry, _, hvalue, rfl, rfl⟩
    exact ⟨value, hentry, hvalue⟩
  · rintro ⟨value, hentry, hvalue⟩
    exact ⟨(symbol, value), hentry, replacement, hvalue, rfl, rfl⟩

/-- Only symbols are defined, in their order. -/
theorem sublist_symbols (config : Config) (style : Style) :
    ((config.definitions style).map Prod.fst).Sublist config.symbols := by
  obtain ⟨entries⟩ := config
  induction entries with
  | nil => exact .slnil
  | cons entry rest ih =>
    cases hvalue : expected style entry.2 with
    | none =>
      have hskip : definitions ⟨entry :: rest⟩ style = definitions ⟨rest⟩ style := by
        simp [definitions, hvalue]
      rw [hskip]
      exact ih.cons entry.1
    | some replacement =>
      have htake : definitions ⟨entry :: rest⟩ style =
          (entry.1, replacement) :: definitions ⟨rest⟩ style := by
        simp [definitions, hvalue]
      rw [htake]
      exact ih.cons_cons entry.1

/-- If the symbols differ from each other and from the guard, the macros that are defined give each
symbol what it has to be defined as. -/
theorem lookup_definitions (hnodup : config.symbols.Nodup) (hguard : guard style ∉ config.symbols)
    (hentry : entry ∈ config.entries) :
    ((config.definitions style).reverse ++ [(guard style, "")]).lookup entry.1 =
      expected style entry.2 := by
  have hkeys : ((config.definitions style).map Prod.fst).Sublist config.symbols :=
    sublist_symbols config style
  cases hvalue : expected style entry.2 with
  | some replacement =>
    apply lookup_eq_some_of_mem
    · -- Apart from the guard, the keys are symbols, which are all different and not the guard.
      rw [List.map_append, List.map_reverse, List.nodup_append]
      refine ⟨List.nodup_reverse.mpr (hnodup.sublist hkeys), List.nodup_singleton _, ?_⟩
      intro name hname other hother heq
      obtain rfl : other = guard style := by simpa using hother
      exact hguard (heq ▸ hkeys.subset (List.mem_reverse.mp hname))
    · exact List.mem_append_left _
        (List.mem_reverse.mpr (mem_definitions_iff.mpr ⟨entry.2, hentry, hvalue⟩))
  | none =>
    rw [lookup_eq_none_iff_not_mem, List.map_append, List.map_reverse, List.mem_append, not_or]
    -- The symbol is neither defined by another entry nor as the guard.
    constructor
    · intro hname
      obtain ⟨⟨name, replacement⟩, hpair, hsame⟩ := List.mem_map.mp (List.mem_reverse.mp hname)
      obtain ⟨value, hother, hdefined⟩ := mem_definitions_iff.mp hpair
      -- An entry with the same symbol would be this entry, which has nothing to be defined as.
      obtain rfl : (name, value) = entry := List.inj_on_of_nodup_map hnodup hother hentry hsame
      simp [hvalue] at hdefined
    · intro hname
      obtain heq : entry.1 = guard style := by simpa using hname
      exact hguard (heq ▸ List.mem_map_of_mem hentry)

/-- The header of a result means what the result says exactly if none of its symbols is named like
the guard. A program that includes it then finds true symbols defined as one, and false symbols
either undefined or defined as zero, depending on the style, whatever the host is. -/
theorem header_means_iff (host : Host) (hconfig : config.IsResult)
    (hstyle : Frame.Spelled style) :
    Means config host style ↔ guard style ∉ config.symbols := by
  rw [Means]
  simp only [Preprocessor.run_eq_ok_iff,
    directives_header host hstyle hconfig.fault?_of_mem_entries]
  constructor
  · intro ⟨macros, hrun, hmacros⟩ hsymbol
    obtain ⟨entry, hentry, hname⟩ := List.mem_map.mp hsymbol
    -- The guard is defined as empty to begin with, and nothing undefines it.
    have hempty : macros.lookup (guard style) = some "" :=
      Preprocessor.lookup_guard_of_foldlM (by simp) hrun
    have hexpected : expected style entry.2 = some "" := by
      rw [← hmacros entry hentry, hname, hempty]
    rcases eq_of_expected hexpected with heq | heq <;> exact absurd heq (by decide)
  · intro hguard
    have hkeys : ((config.definitions style).map Prod.fst).Sublist config.symbols :=
      sublist_symbols config style
    refine ⟨(config.definitions style).reverse ++ [(guard style, "")], ?_, ?_⟩
    · exact Preprocessor.foldlM_guarded (fun hmem => hguard (hkeys.subset hmem))
        (hconfig.nodup_symbols.sublist hkeys)
    · intro entry hentry
      exact lookup_definitions hconfig.nodup_symbols hguard hentry

/-- The style without a banner. -/
def bannerless : Style := { banner := false }

theorem isResult_hasFork : IsResult ⟨[("HAS_FORK", false)]⟩ :=
  ⟨"a", [⟨"HAS_FORK", .host "b"⟩], {}, by decide⟩

theorem spelled_bannerless : Frame.Spelled bannerless := .inl rfl

/-- A symbol that is not named like the guard is undefined if it is false. -/
theorem header_means_iff_at_hasFork :
    IsResult ⟨[("HAS_FORK", false)]⟩ ∧ Frame.Spelled bannerless ∧
      Means ⟨[("HAS_FORK", false)]⟩ plainHost bannerless :=
  ⟨isResult_hasFork, spelled_bannerless,
    (header_means_iff plainHost isResult_hasFork spelled_bannerless).mpr (by decide +kernel)⟩

/-- A symbol that is named like the guard. If it is false, it is defined all the same, as empty, and
if it is true, it is defined twice. -/
theorem symbol_named_like_guard :
    IsResult ⟨[("CONFIG_H", false)]⟩ ∧ IsResult ⟨[("CONFIG_H", true)]⟩ ∧
      Frame.Spelled bannerless ∧
      run (header ⟨[("CONFIG_H", false)]⟩ plainHost bannerless) = .ok [("CONFIG_H", "")] ∧
      run (header ⟨[("CONFIG_H", true)]⟩ plainHost bannerless) = .error (.redefined "CONFIG_H") ∧
      ¬ Means ⟨[("CONFIG_H", false)]⟩ plainHost bannerless := by
  have hfalse : IsResult ⟨[("CONFIG_H", false)]⟩ :=
    ⟨"a", [⟨"CONFIG_H", .host "b"⟩], {}, by decide +kernel⟩
  have htrue : IsResult ⟨[("CONFIG_H", true)]⟩ :=
    ⟨"a", [⟨"CONFIG_H", .host "a"⟩], {}, by decide +kernel⟩
  have hrun : run (header ⟨[("CONFIG_H", false)]⟩ plainHost bannerless) =
      .ok [("CONFIG_H", "")] := by
    decide +kernel
  refine ⟨hfalse, htrue, spelled_bannerless, hrun, by decide +kernel, ?_⟩
  intro ⟨macros, hmacros, hentries⟩
  obtain rfl : [("CONFIG_H", "")] = macros := Except.ok.inj (hrun.symm.trans hmacros)
  exact absurd (hentries _ List.mem_cons_self) (by decide)

end Boilerplate.Config
