import Boilerplate.Host

/-!
# Patterns of hosts

A pattern is matched against the whole name of a host. It is literal text, with a star at its
start, at its end, at both or at neither; a star stands for any characters, and for none. The
other wildcards of shell patterns are refused, and so is a star anywhere else.

## Main definitions

* `Pattern` — a pattern, taken apart
* `Pattern.Fault` — why a text is no pattern, with its wording
* `Pattern.parse` — the pattern that a text stands for
* `Pattern.accepts` — whether a pattern matches a text
-/

namespace Boilerplate

/-- Literal text, and whether a star stands before and after it. -/
structure Pattern where
  leading : Bool
  literal : List Char
  trailing : Bool
  deriving DecidableEq, Repr

namespace Pattern

/-- Why a text is no pattern. -/
inductive Fault
  | empty
  | unsupported
  deriving DecidableEq, Repr

/-- The wording of a fault. -/
def Fault.message : Fault → String
  | empty => "empty pattern"
  | unsupported => "only a single leading and/or trailing '*' is supported"

/-- The characters that shell patterns give a meaning to. -/
def isSpecial (c : Char) : Bool := c == '*' || c == '?' || c == '[' || c == ']'

/-- Takes a star off the start of a text, if there is one. -/
def takeLeading : List Char → Bool × List Char
  | '*' :: rest => (true, rest)
  | cs => (false, cs)

/-- Takes a star off the end of a text, if there is one. -/
def takeTrailing (cs : List Char) : Bool × List Char :=
  if cs.getLast? = some '*' then (true, cs.dropLast) else (false, cs)

/-- The pattern that a text stands for. -/
def parse (text : String) : Except Fault Pattern :=
  if text.toList = [] then .error .empty
  else
    let (leading, rest) := takeLeading text.toList
    let (trailing, literal) := takeTrailing rest
    if literal.any isSpecial then .error .unsupported else .ok ⟨leading, literal, trailing⟩

/-- A star, or nothing in its place. -/
def star (present : Bool) : List Char := if present then ['*'] else []

/-- The text that stands for a pattern. -/
def text (p : Pattern) : String := String.ofList (star p.leading ++ p.literal ++ star p.trailing)

/-- Whether one text stands somewhere in another. -/
def occursIn (literal : List Char) : List Char → Bool
  | [] => literal.isEmpty
  | c :: cs => literal.isPrefixOf (c :: cs) || occursIn literal cs

/-- Whether a pattern matches the whole of a text: where a star stands, the text may go on. -/
def accepts (p : Pattern) (input : String) : Bool :=
  match p.leading, p.trailing with
  | true, true => occursIn p.literal input.toList
  | true, false => p.literal.isSuffixOf input.toList
  | false, true => p.literal.isPrefixOf input.toList
  | false, false => p.literal == input.toList

/-- A text stands in another exactly if that one continues it at both ends. -/
theorem occursIn_iff {literal cs : List Char} : occursIn literal cs = true ↔ literal <:+: cs := by
  induction cs with
  | nil => simp [occursIn]
  | cons c cs ih => simp [occursIn, ih, List.infix_cons_iff]

end Pattern

end Boilerplate
