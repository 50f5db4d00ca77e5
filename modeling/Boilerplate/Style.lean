/-!
# The style of generated files

A style chooses what generated files leave open: the start of the include guards, whether files
open with a banner, how a configuration header spells a symbol that is false, and how far members
and the bodies of functions are indented.

## Main definitions

* `Negatives` — the two spellings of a false symbol
* `Style` — all choices, with the usual ones as defaults
* `Style.indentation` — the blanks in front of an indented line
-/

namespace Boilerplate

/-- How a configuration header spells a symbol that is false: left undefined, with a comment that
says so, or defined as zero. -/
inductive Negatives | undefined | zero
  deriving DecidableEq, Repr

/-- The choices that generated files leave open. -/
structure Style where
  /-- What every include guard starts with. -/
  guardPrefix : String := ""
  /-- Whether files open with a banner. -/
  banner : Bool := true
  /-- The spelling of symbols that are false. -/
  negatives : Negatives := .undefined
  /-- The number of blanks that an indented line starts with. -/
  indent : Nat := 4
  deriving DecidableEq, Repr

/-- The blanks in front of an indented line. -/
def Style.indentation (style : Style) : String :=
  String.ofList (List.replicate style.indent ' ')

end Boilerplate
