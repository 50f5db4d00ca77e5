import Boilerplate.Proofs.Basic
import Boilerplate.Proofs.Identifier
import Boilerplate.Proofs.Text.Comment
import Boilerplate.Proofs.Text.Lines
import Mathlib.Data.List.Nodup

/-!
# What a header defines

A small preprocessor, which says what a header does to the macros of a program that includes it. It
drops the comments, takes the directives off the lines that are left, and runs them one by one.
Conditional groups nest, and within a group that is skipped nothing is defined. A macro must not be
defined while it is defined already, every group must be closed, and directives of other kinds are
not understood: each of these is a fault. Lines end where they end in the text; a backslash does not
join one to the next.

A macro that was defined keeps its replacement until it is undefined, since nothing else may define
it again.

## Main definitions

* `Preprocessor.Directive`, `Preprocessor.directives` — directives, and those of a text
* `Preprocessor.State`, `Preprocessor.step` — macros and open groups, and what a directive does
* `Preprocessor.run` — the macros that a header leaves defined

## Main results

* `directives_of_leaves` — the directives of a text whose lines are known
* `foldlM_define` — definitions of new macros in a row
* `foldlM_guarded` — a guard and such definitions within it
* `lookup_of_step`, `lookup_of_foldlM` — a macro keeps its replacement
* `run_eq_ok_iff` — a run as a sequence of steps that leaves no group open
-/

namespace Boilerplate.Preprocessor

/-- A directive of the preprocessor. The replacement of a macro is a text of words. -/
inductive Directive
  | ifndef (name : String)
  | endif
  | define (name replacement : String)
  | undef (name : String)
  | other
  deriving DecidableEq, Repr

/-- Why a header cannot be processed. -/
inductive Fault
  | redefined (name : String)
  | strayEndif
  | openGroup
  | unknownDirective
  deriving DecidableEq, Repr

/-- The words of a line, which stand between blanks. -/
def words (line : List Char) : List String :=
  ((line.splitOnP Char.isWhitespace).filter (!·.isEmpty)).map String.ofList

/-- The directive that the words of a line make up, unless they are plain text. -/
def Directive.ofWords : List String → Option Directive
  | ["#ifndef", name] => some (.ifndef name)
  | ["#endif"] => some .endif
  | "#define" :: name :: replacement => some (.define name (" ".intercalate replacement))
  | ["#undef", name] => some (.undef name)
  | word :: _ => if word.toList.head? = some '#' then some .other else none
  | [] => none

/-- The directives of a text, in order, with its comments dropped first. -/
def directives (text : List Char) : List Directive :=
  ((Text.uncomment false text).splitOn '\n').filterMap fun line => Directive.ofWords (words line)

/-- The macros that are defined, each with its replacement, and the groups that are open, innermost
first: whether the condition of each of them holds. -/
structure State where
  macros : List (String × String) := []
  groups : List Bool := []
  deriving DecidableEq, Repr

/-- Whether a macro is defined. -/
def State.isDefined (state : State) (name : String) : Bool := (state.macros.lookup name).isSome

/-- Whether lines are read at this point, rather than skipped. -/
def State.isReading (state : State) : Bool := state.groups.all fun holds => holds

/-- What a directive does. -/
def step (state : State) : Directive → Except Fault State
  -- Groups are counted where nothing is read as well, so that each end finds its start.
  | .ifndef name => .ok { state with groups := (!state.isDefined name) :: state.groups }
  | .endif =>
    match state.groups with
    | [] => .error .strayEndif
    | _ :: groups => .ok { state with groups := groups }
  | .define name replacement =>
    if !state.isReading then .ok state
    else if state.isDefined name then .error (.redefined name)
    else .ok { state with macros := (name, replacement) :: state.macros }
  | .undef name =>
    if state.isReading then
      .ok { state with macros := state.macros.filter fun pair => pair.1 != name }
    else .ok state
  | .other => if state.isReading then .error .unknownDirective else .ok state

/-- The macros that a header leaves defined, if none was defined before it. -/
def run (text : String) : Except Fault (List (String × String)) := do
  let state ← (directives text.toList).foldlM step {}
  if state.groups.isEmpty then .ok state.macros else .error .openGroup

variable {c : Char} {name replacement : String} {word : List Char} {text : List Char}
  {state state' : State} {ds : List Directive} {definitions : List (String × String)}

/-! ### Words and lines -/

theorem words_nil : words [] = [] := by simp [words]

/-- An empty line holds no directive. -/
@[simp] theorem ofWords_nil : Directive.ofWords (words []) = none := by
  rw [words_nil, Directive.ofWords]

/-- A blank ends the words before it. -/
theorem words_append_blank (hc : c.isWhitespace = true) (word rest : List Char) :
    words (word ++ c :: rest) = words word ++ words rest := by
  rw [words, List.splitOnP_append_cons word rest hc, List.filter_append, List.map_append]
  rfl

/-- A text without blanks is one word. -/
theorem words_word (hne : word ≠ []) (h : ∀ c ∈ word, c.isWhitespace = false) :
    words word = [String.ofList word] := by
  rw [words, List.splitOnP_eq_singleton h]
  simp [hne]

/-- A name that consists of the characters of identifiers is one word. -/
theorem words_name (hne : name ≠ "") (h : ∀ c ∈ name.toList, Identifier.isPart c = true) :
    words name.toList = [name] := by
  have hblank : ∀ c ∈ name.toList, c.isWhitespace = false := fun c hc =>
    Identifier.isWhitespace_eq_false_of_isPart (h c hc)
  rw [words_word (by simpa using hne) hblank, String.ofList_toList]

/-- A word and a blank come off the front of a line. -/
theorem words_keyword {keyword : String} (hkeyword : words keyword.toList = [keyword])
    (rest : List Char) : words (keyword.toList ++ ' ' :: rest) = keyword :: words rest := by
  rw [words_append_blank rfl, hkeyword, List.singleton_append]

theorem ofWords_ifndef (hne : name ≠ "") (h : ∀ c ∈ name.toList, Identifier.isPart c = true) :
    Directive.ofWords (words ("#ifndef " ++ name).toList) = some (.ifndef name) := by
  have hline : ("#ifndef " ++ name).toList = "#ifndef".toList ++ ' ' :: name.toList := by simp
  rw [hline, words_keyword (by decide), words_name hne h]
  rfl

theorem ofWords_define (hne : name ≠ "") (h : ∀ c ∈ name.toList, Identifier.isPart c = true) :
    Directive.ofWords (words ("#define " ++ name).toList) = some (.define name "") := by
  have hline : ("#define " ++ name).toList = "#define".toList ++ ' ' :: name.toList := by simp
  rw [hline, words_keyword (by decide), words_name hne h]
  rfl

theorem ofWords_define_replacement (hne : name ≠ "")
    (h : ∀ c ∈ name.toList, Identifier.isPart c = true)
    (hword : words replacement.toList = [replacement]) :
    Directive.ofWords (words ("#define " ++ name ++ " " ++ replacement).toList) =
      some (.define name replacement) := by
  have hline : ("#define " ++ name ++ " " ++ replacement).toList =
      "#define".toList ++ ' ' :: (name.toList ++ ' ' :: replacement.toList) := by simp
  rw [hline, words_keyword (by decide), words_keyword (words_name hne h), hword,
    Directive.ofWords, String.intercalate_singleton]

/-- The directives of a text that comes down to lines of code are those of the lines. -/
theorem directives_of_leaves {lines : List (List Char)}
    (h : Text.Leaves text (lines.flatMap (· ++ ['\n']))) (hlines : ∀ line ∈ lines, '\n' ∉ line) :
    directives text = lines.filterMap fun line => Directive.ofWords (words line) := by
  rw [directives, h.uncomment_eq, Text.splitOn_closedLines hlines, List.filterMap_append]
  simp

/-! ### Definitions -/

theorem step_define (hreading : state.isReading = true)
    (hnew : name ∉ state.macros.map Prod.fst) :
    step state (.define name replacement) =
      .ok { state with macros := (name, replacement) :: state.macros } := by
  have hundefined : state.isDefined name = false := by
    rw [State.isDefined, lookup_eq_none_iff_not_mem.mpr hnew]
    rfl
  simp [step, hreading, hundefined]

/-- Definitions of macros that are new and differ from each other succeed one after the other. -/
theorem foldlM_define (hreading : state.isReading = true)
    (hnodup : (definitions.map Prod.fst).Nodup)
    (hnew : ∀ name ∈ definitions.map Prod.fst, name ∉ state.macros.map Prod.fst) :
    (definitions.map fun pair => Directive.define pair.1 pair.2).foldlM step state =
      .ok { state with macros := definitions.reverse ++ state.macros } := by
  induction definitions generalizing state with
  | nil => rfl
  | cons pair rest ih =>
    rw [List.map_cons, List.nodup_cons] at hnodup
    have hfirst : step state (.define pair.1 pair.2) =
        .ok { state with macros := pair :: state.macros } :=
      step_define hreading (hnew pair.1 (by simp))
    -- The rest must be new beside the macro that is defined now.
    have hrestNew : ∀ name ∈ rest.map Prod.fst, name ∉ (pair :: state.macros).map Prod.fst := by
      intro name hname
      rw [List.map_cons, List.mem_cons, not_or]
      refine ⟨?_, hnew name (List.mem_cons_of_mem _ hname)⟩
      rintro rfl
      exact hnodup.1 hname
    have hrest : (rest.map fun pair => Directive.define pair.1 pair.2).foldlM step
          { state with macros := pair :: state.macros } =
        .ok { state with macros := rest.reverse ++ pair :: state.macros } :=
      @ih { state with macros := pair :: state.macros } hreading hnodup.2 hrestNew
    rw [List.map_cons, List.foldlM_cons, hfirst, List.reverse_cons, List.append_assoc]
    exact hrest

/-- A guard that no macro is defined before opens its group and is defined in it. -/
theorem foldlM_guard (guardName : String) (ds : List Directive) :
    (.ifndef guardName :: .define guardName "" :: ds).foldlM step {} =
      ds.foldlM step { macros := [(guardName, "")], groups := [true] } := rfl

/-- A guard and definitions of other macros that differ from each other leave just these defined. -/
theorem foldlM_guarded {guardName : String} (hguard : guardName ∉ definitions.map Prod.fst)
    (hnodup : (definitions.map Prod.fst).Nodup) :
    (.ifndef guardName :: .define guardName "" ::
        ((definitions.map fun pair => Directive.define pair.1 pair.2) ++ [.endif])).foldlM step {} =
      .ok { macros := definitions.reverse ++ [(guardName, "")] } := by
  have hnew : ∀ name ∈ definitions.map Prod.fst, name ∉ [(guardName, "")].map Prod.fst := by
    intro name hname
    rw [List.map_singleton, List.mem_singleton]
    rintro rfl
    exact hguard hname
  have hinside : (definitions.map fun pair => Directive.define pair.1 pair.2).foldlM step
        { macros := [(guardName, "")], groups := [true] } =
      .ok { macros := definitions.reverse ++ [(guardName, "")], groups := [true] } :=
    @foldlM_define { macros := [(guardName, "")], groups := [true] } definitions rfl hnodup hnew
  -- The end closes the one group that the guard opened.
  rw [foldlM_guard, List.foldlM_append, hinside]
  rfl

/-! ### What is kept -/

/-- A directive that does not undefine a macro leaves its replacement as it is. -/
theorem lookup_of_step {d : Directive} (hstep : step state d = .ok state')
    (hd : d ≠ .undef name) (h : state.macros.lookup name = some replacement) :
    state'.macros.lookup name = some replacement := by
  cases d with
  | ifndef other =>
    cases hstep
    exact h
  | endif =>
    unfold step at hstep
    cases hgroups : state.groups with
    | nil => simp [hgroups] at hstep
    | cons group groups =>
      simp only [hgroups, Except.ok.injEq] at hstep
      rw [← hstep]
      exact h
  | define other text =>
    by_cases hreading : state.isReading = true
    · by_cases hdefined : state.isDefined other = true
      · simp [step, hreading, hdefined] at hstep
      · -- The other macro is new, so it is not the one that is looked up.
        have hne : name ≠ other := by
          rintro rfl
          simp [State.isDefined, h] at hdefined
        obtain rfl : { state with macros := (other, text) :: state.macros } = state' := by
          simpa [step, hreading, hdefined] using hstep
        simpa [List.lookup_cons, beq_false_of_ne hne] using h
    · obtain rfl : state = state' := by simpa [step, hreading] using hstep
      exact h
  | undef other =>
    by_cases hreading : state.isReading = true
    · have hne : other ≠ name := fun heq => hd (heq ▸ rfl)
      obtain rfl : { state with
          macros := state.macros.filter fun pair => pair.1 != other } = state' := by
        simpa [step, hreading] using hstep
      rw [lookup_filter_ne hne.symm]
      exact h
    · obtain rfl : state = state' := by simpa [step, hreading] using hstep
      exact h
  | other =>
    by_cases hreading : state.isReading = true
    · simp [step, hreading] at hstep
    · obtain rfl : state = state' := by simpa [step, hreading] using hstep
      exact h

/-- Directives that never undefine a macro leave its replacement as it is. -/
theorem lookup_of_foldlM (hrun : ds.foldlM step state = .ok state') (hds : .undef name ∉ ds)
    (h : state.macros.lookup name = some replacement) :
    state'.macros.lookup name = some replacement := by
  -- The replacement after the first directive is what the rest starts from.
  induction ds generalizing state with
  | nil =>
    obtain rfl : state = state' := pure_eq_ok_iff.mp hrun
    exact h
  | cons d ds ih =>
    rw [List.foldlM_cons, bind_eq_ok_iff] at hrun
    obtain ⟨next, hstep, hrest⟩ := hrun
    rw [List.mem_cons, not_or] at hds
    exact ih hrest hds.2 (lookup_of_step hstep (Ne.symm hds.1) h)

/-- A guard that is defined first is empty at the end, unless it is undefined in between. -/
theorem lookup_guard_of_foldlM {guardName : String} (hds : .undef guardName ∉ ds)
    (hrun : (.ifndef guardName :: .define guardName "" :: ds).foldlM step {} = .ok state) :
    state.macros.lookup guardName = some "" := by
  rw [foldlM_guard] at hrun
  exact lookup_of_foldlM hrun hds List.lookup_cons_self

/-- The macros that a header leaves are those of the state at its end, where no group is open. -/
theorem run_eq_ok_iff {header : String} {macros : List (String × String)} :
    run header = .ok macros ↔
      (directives header.toList).foldlM step {} = .ok { macros := macros } := by
  rw [run, bind_eq_ok_iff]
  constructor
  · rintro ⟨⟨found, groups⟩, hrun, hend⟩
    cases groups with
    | nil =>
      obtain rfl : found = macros := by simpa using hend
      exact hrun
    | cons holds groups => simp at hend
  · intro hrun
    exact ⟨_, hrun, rfl⟩

end Boilerplate.Preprocessor
