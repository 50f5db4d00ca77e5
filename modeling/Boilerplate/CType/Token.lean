import Boilerplate.Text.Blank

/-!
# Tokens of a type

A declared type is a sequence of words and stars. Blanks separate words; a star is a token of its
own whether blanks surround it or not.

## Main definitions

* `Token` — a star or a word
* `Token.scan` — the word at the very front of a text, and the tokens after it
* `Token.ofList` — the tokens of a text
-/

namespace Boilerplate

/-- A token of a declared type. -/
inductive Token
  | star
  | word (text : String)
  deriving DecidableEq, Repr

namespace Token

/-- How a token is written. -/
def text : Token → String
  | star => "*"
  | word text => text

/-- Puts a word in front of tokens, unless it has no characters. -/
def pushWord : List Char → List Token → List Token
  | [], ts => ts
  | cs, ts => word (String.ofList cs) :: ts

/-- Splits a text into the characters of the word at its very front, which are none if it starts
with a blank or a star, and the tokens that follow. -/
def scan : List Char → List Char × List Token
  | [] => ([], [])
  | c :: rest =>
    let (cs, ts) := scan rest
    if c = '*' then ([], star :: pushWord cs ts)
    else if Text.isBlank c then ([], pushWord cs ts)
    else (c :: cs, ts)

/-- The tokens of a text. -/
def ofList (cs : List Char) : List Token := pushWord (scan cs).1 (scan cs).2

/-- The tokens of a text. -/
def ofText (s : String) : List Token := ofList s.toList

@[simp] theorem ofList_nil : ofList [] = [] := rfl

@[simp] theorem ofList_star (cs : List Char) : ofList ('*' :: cs) = star :: ofList cs := rfl

@[simp] theorem ofList_blank {c : Char} (h : Text.isBlank c = true) (cs : List Char) :
    ofList (c :: cs) = ofList cs := by
  have hc : c ≠ '*' := by rintro rfl; revert h; decide
  simp [ofList, scan, hc, h, pushWord]

end Token

end Boilerplate
