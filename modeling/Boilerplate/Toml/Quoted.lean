import Boilerplate.Toml.Digits

/-!
# Quoted strings in TOML

A string is quoted in one of four ways. Between double quotes a backslash starts an escape;
between single quotes it stands for itself. Three quotes in place of one make a string that may go
over several lines. Such a string may hold one or two quotes in a row, also right before the three
that close it; a line break right after the opening quotes does not belong to it; and every line
break in it is one line feed, however it is written.

Each reader starts after the opening quotes and returns the contents and what follows the closing
ones.

## Main definitions

* `Toml.Quoted.isPlain` — the characters that may stand in strings as they are
* `Toml.Quoted.escape` — reads an escape
* `Toml.Quoted.literal`, `Toml.Quoted.literalLines` — readers for single quotes
* `Toml.Quoted.basic`, `Toml.Quoted.basicLines` — readers for double quotes
* `Toml.Quoted.read` — reads any quoted string, with its quotes
-/

namespace Boilerplate.Toml.Quoted

/-- The contents of a string, and what follows it. -/
abbrev Result := Option (List Char × List Char)

/-- Puts a character in front of the contents of a string. -/
def push (c : Char) (r : Result) : Result := r.map fun (contents, rest) => (c :: contents, rest)

/-- Characters other than control characters may stand in strings and comments as they are; the
tab is the one control character that may. -/
def isPlain (c : Char) : Bool := c == '\t' || (' ' ≤ c && c != '\x7f')

/-- Whether a character is a blank within a line. -/
def isGap (c : Char) : Bool := c == ' ' || c == '\t'

/-- What follows a line break: a line feed, or a carriage return and a line feed. -/
def lineBreak? : List Char → Option (List Char)
  | '\n' :: rest => some rest
  | '\r' :: '\n' :: rest => some rest
  | _ => none

/-- Skips blanks and line breaks. -/
def skipLines : List Char → List Char
  | ' ' :: rest => skipLines rest
  | '\t' :: rest => skipLines rest
  | '\n' :: rest => skipLines rest
  | '\r' :: '\n' :: rest => skipLines rest
  | cs => cs

/-- The character with the code point that hexadecimal digits give; half of a surrogate pair is
none. -/
def codePoint? (cs : List Char) : Option Char :=
  (Digits.number? 16 cs).bind fun n => if n.isValidChar then some (Char.ofNat n) else none

/-- Reads what follows the backslash of an escape, and returns the character meant. -/
def escape : List Char → Option (Char × List Char)
  | 'b' :: rest => some ('\x08', rest)
  | 't' :: rest => some ('\t', rest)
  | 'n' :: rest => some ('\n', rest)
  | 'f' :: rest => some ('\x0c', rest)
  | 'r' :: rest => some ('\r', rest)
  | '"' :: rest => some ('"', rest)
  | '\\' :: rest => some ('\\', rest)
  | 'u' :: a :: b :: c :: d :: rest => (codePoint? [a, b, c, d]).map (·, rest)
  | 'U' :: a :: b :: c :: d :: e :: f :: g :: h :: rest =>
    (codePoint? [a, b, c, d, e, f, g, h]).map (·, rest)
  | _ => none

/-- An escape takes at least one character. -/
theorem length_lt_of_escape {cs rest : List Char} {c : Char} (h : escape cs = some (c, rest)) :
    rest.length < cs.length := by
  unfold escape at h
  split at h <;> simp only [Option.map_eq_some_iff, Option.some.injEq, Prod.mk.injEq,
    reduceCtorEq] at h
  case h_8 | h_9 =>
    obtain ⟨_, _, _, rfl⟩ := h
    simp only [List.length_cons]
    omega
  all_goals
    obtain ⟨_, rfl⟩ := h
    simp only [List.length_cons]
    omega

/-- A line break takes at least one character. -/
theorem length_lt_of_lineBreak {cs rest : List Char} (h : lineBreak? cs = some rest) :
    rest.length < cs.length := by
  unfold lineBreak? at h
  split at h <;> simp only [Option.some.injEq, reduceCtorEq] at h
  all_goals
    subst h
    simp only [List.length_cons]
    omega

/-- Skipping adds nothing. -/
theorem length_skipLines_le (cs : List Char) : (skipLines cs).length ≤ cs.length := by
  fun_induction skipLines cs with
  | case1 rest ih | case2 rest ih | case3 rest ih => exact Nat.le_succ_of_le ih
  | case4 rest ih => exact Nat.le_succ_of_le (Nat.le_succ_of_le ih)
  | case5 cs => exact Nat.le_refl _

/-- Reads a string on one line between single quotes. -/
def literal : List Char → Result
  | '\'' :: rest => some ([], rest)
  | c :: rest => if isPlain c then push c (literal rest) else none
  | [] => none

/-- Reads a string on one line between double quotes. -/
def basic : List Char → Result
  | '"' :: rest => some ([], rest)
  | '\\' :: rest =>
    match _h : escape rest with
    | some (c, rest') => push c (basic rest')
    | none => none
  | c :: rest => if isPlain c then push c (basic rest) else none
  | [] => none
termination_by cs => cs.length
decreasing_by
  · have := length_lt_of_escape _h
    simp only [List.length_cons]; omega
  · simp

/-- Closes a string of several lines, if the text starts with three quotes: up to two more quotes
may stand in front of the closing ones and then belong to the string. -/
def close? (quote : Char) (cs : List Char) : Result :=
  let count := (cs.takeWhile (· == quote)).length
  if count < 3 then none
  else some (List.replicate (min (count - 3) 2) quote, cs.drop (min count 5))

/-- Reads a string of several lines between single quotes. -/
def literalLines (cs : List Char) : Result :=
  match close? '\'' cs with
  | some closed => some closed
  | none =>
    match cs with
    | '\n' :: rest => push '\n' (literalLines rest)
    | '\r' :: '\n' :: rest => push '\n' (literalLines rest)
    | c :: rest => if isPlain c then push c (literalLines rest) else none
    | [] => none
termination_by cs.length

/-- Reads a string of several lines between double quotes. A backslash at the end of a line takes
the line break with it, and all blanks and line breaks after that. -/
def basicLines (cs : List Char) : Result :=
  match close? '"' cs with
  | some closed => some closed
  | none =>
    match cs with
    | '\\' :: rest =>
      match _hb : lineBreak? (rest.dropWhile isGap) with
      | some rest' => basicLines (skipLines rest')
      | none =>
        match _he : escape rest with
        | some (c, rest') => push c (basicLines rest')
        | none => none
    | '\n' :: rest => push '\n' (basicLines rest)
    | '\r' :: '\n' :: rest => push '\n' (basicLines rest)
    | c :: rest => if isPlain c then push c (basicLines rest) else none
    | [] => none
termination_by cs.length
decreasing_by
  · have := length_lt_of_lineBreak _hb
    have := length_skipLines_le rest'
    have : (rest.dropWhile isGap).length ≤ rest.length := (List.dropWhile_suffix isGap).length_le
    simp only [List.length_cons]; omega
  · have := length_lt_of_escape _he
    simp only [List.length_cons]; omega
  all_goals
    simp only [List.length_cons]
    omega

/-- Drops a line break at the very start of a text. -/
def dropLineBreak (cs : List Char) : List Char := (lineBreak? cs).getD cs

/-- Reads a string on one line, in either kind of quotes. -/
def readLine : List Char → Result
  | '"' :: rest => basic rest
  | '\'' :: rest => literal rest
  | _ => none

/-- Reads a quoted string, in any of the four ways of quoting. -/
def read : List Char → Result
  | '"' :: '"' :: '"' :: rest => basicLines (dropLineBreak rest)
  | '\'' :: '\'' :: '\'' :: rest => literalLines (dropLineBreak rest)
  | cs => readLine cs

end Boilerplate.Toml.Quoted
